import Understudy.Text.Choice
import Understudy.Toml.Value

/-!
# Values of the wrong shape

A value is read as what is wanted in its place, or refused with a mismatch that
says what was found there instead.
-/

set_option autoImplicit false

namespace Understudy.Toml

inductive Mismatch where
  | type (found : Value) (wanted : String)
  | number (found : Int) (wanted : String)
  | unknownField (name : String) (known : List String)
  | unknownVariant (name : String) (known : List String)
  | missingField (name : String)
  | length (found : Nat) (wanted : String)
  /-- A variant is named by a string, or by the key of a table. -/
  | noVariant
  | noEntry
  | manyEntries
  /-- The value beside a variant's name should have been an empty table. -/
  | payload (found : Value)
  | unreadable
  deriving Repr

namespace Mismatch

def message : Mismatch → String
  | type found wanted => "invalid type: " ++ found.description ++ ", expected " ++ wanted
  | number found wanted =>
    "invalid value: " ++ (Value.integer found).description ++ ", expected " ++ wanted
  | unknownField name known =>
    "unknown field \x60" ++ name ++ "\x60, expected " ++ Text.alternatives known
  | unknownVariant name known =>
    "unknown variant \x60" ++ name ++ "\x60, expected " ++ Text.alternatives known
  | missingField name => "missing field \x60" ++ name ++ "\x60"
  | length found wanted => "invalid length " ++ toString found ++ ", expected " ++ wanted
  | noVariant => "wanted string or table"
  | noEntry => "wanted exactly 1 element, found 0 elements"
  | manyEntries => "wanted exactly 1 element, more than 1 element"
  | payload (.table _) => "expected empty table"
  | payload (.array _) => "expected empty array"
  | payload found => "expected table, found " ++ found.typeName
  | unreadable => "number out of range"

end Mismatch

namespace Value

def asText (wanted : String) : Value → Except Mismatch String
  | .string text => .ok text
  | found => .error (.type found wanted)

def asString (v : Value) : Except Mismatch String := v.asText "a string"

def asBoolean : Value → Except Mismatch Bool
  | .boolean b => .ok b
  | found => .error (.type found "a boolean")

def asCount : Value → Except Mismatch Nat
  | .integer n =>
    if n < 0 then .error (.number n "usize")
    else if n < Int.pow 2 64 then .ok n.toNat
    else .error (.type (.integer n) "usize")
  | found => .error (.type found "usize")

def asItems : Value → Except Mismatch (List Value)
  | .array items => .ok items
  | found => .error (.type found "a sequence")

def asStrings (v : Value) : Except Mismatch (List String) := do
  (← v.asItems).mapM asString

def isEmptyPayload : Value → Bool
  | .table [] => true
  | .array [] => true
  | _ => false

def asChoice {α : Type} (choice : Text.Choice α) : Value → Except Mismatch α
  | .string name => named name
  | .table [] => .error .noEntry
  | .table [(name, value)] => do
    let chosen ← named name
    if value.isEmptyPayload then pure chosen else throw (.payload value)
  | .table _ => .error .manyEntries
  | _ => .error .noVariant
where
  named (name : String) : Except Mismatch α :=
    match choice.find? name with
    | some a => .ok a
    | none => .error (.unknownVariant name choice.names)

end Value

end Understudy.Toml
