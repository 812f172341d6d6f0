import Understudy.Files.Cause
import Understudy.Settings.Basic
import Understudy.Toml.Document
import Understudy.Toml.Mismatch

/-!
# Settings from a TOML document

Each entry of the document sets one field, in the order of the keys; a key that
names no field is refused. A type is written as a table, where other keys are
passed over, or as an array of its fields in order.
-/

set_option autoImplicit false

namespace Understudy

open Toml (Value Mismatch)

namespace Mock.Descriptor

structure Draft where
  name : Option String := none
  kind : Option Kind := none
  members : Option (List String) := none

namespace Draft

def set (d : Draft) (entry : String × Value) : Except Mismatch Draft := do
  match entry.1 with
  | "name" => return { d with name := ← entry.2.asString }
  | "kind" => return { d with kind := ← entry.2.asChoice Kind.choice }
  | "members" => return { d with members := ← entry.2.asStrings }
  | _ => if entry.2.unreadable then throw .unreadable else return d

def finish (d : Draft) : Except Mismatch Descriptor := do
  let some name := d.name | throw (.missingField "name")
  let some kind := d.kind | throw (.missingField "kind")
  return { name, kind, members := d.members.getD [] }

end Draft

def wanted : String := "struct TypeDescriptor"

def ofValue : Value → Except Mismatch Descriptor
  | .table entries => do (← entries.foldlM Draft.set {}).finish
  | .datetime _ => ({} : Draft).finish
  | .array items => ofItems items
  | found => .error (.type found wanted)
where
  ofItems : List Value → Except Mismatch Descriptor
    | [] => short 0
    | [name] => do
      let _ ← name.asString
      short 1
    | name :: kind :: rest => do
      let name ← name.asString
      let kind ← kind.asChoice Kind.choice
      let members ← match rest with
        | [] => pure []
        | members :: _ => members.asStrings
      return { name, kind, members }
  short (count : Nat) : Except Mismatch Descriptor :=
    .error (.length count (wanted ++ " with 3 elements"))

end Mock.Descriptor

namespace Settings

def set (s : Settings) (entry : String × Value) : Except Mismatch Settings := do
  let v := entry.2
  match entry.1 with
  | "module" => return { s with moduleName := ← v.asString }
  | "output" => return { s with output := ← v.asText "path string" }
  | "imports" => return { s with imports := .ofList (← v.asStrings) }
  | "import_module" => return { s with importModule := ← v.asBoolean }
  | "runtime" => return { s with runtime := ← v.asString }
  | "condition" => return { s with condition := some (← v.asString) }
  | "only_protocols" => return { s with onlyProtocols := ← v.asBoolean }
  | "disable_lint" => return { s with disableLint := ← v.asBoolean }
  | "atomic" => return { s with atomic := ← v.asBoolean }
  | "encoding" => return { s with encoding := ← v.asChoice Encoding.choice }
  | "jobs" => return { s with jobs := some (← v.asCount) }
  | "types" => return { s with types := ← (← v.asItems).mapM Mock.Descriptor.ofValue }
  | name => throw (.unknownField name fieldNames)

def ofTable (table : Toml.Table) : Except Mismatch Settings := table.foldlM set {}

inductive Refusal where
  | notToml
  /-- It does not fit, and holds a number of more than 64 bits. -/
  | wide
  | mismatch (mismatch : Mismatch)
  | invalid (reason : Invalid)

inductive Link where
  | message (text : String)
  /-- What the TOML reader says about a text: where the fault is, and of what kind when
  the text is TOML. -/
  | reading (text : String) (mismatch? : Option String)
  deriving DecidableEq, Repr

def Refusal.chain (text : String) : Refusal → List Link
  | notToml => [.message "invalid generator configuration", .reading text none]
  | wide => [.message "invalid generator configuration", .reading text none]
  | mismatch m => [.message "invalid generator configuration", .reading text (some m.message)]
  | invalid reason => [.message reason.message]

def parse (text : String) : Except Refusal Settings :=
  match Toml.Document.parse? text with
  | none => .error .notToml
  | some table =>
    match ofTable table with
    | .error m => .error (if (Value.table table).holdsWide then .wide else .mismatch m)
    | .ok s =>
      match s.invalid? with
      | some reason => .error (.invalid reason)
      | none => .ok s

inductive LoadFailure where
  | unreadable (path : String) (cause : Cause)
  | refused (path text : String) (refusal : Refusal)

def LoadFailure.chain : LoadFailure → List Link
  | unreadable path cause =>
    [.message ("failed to read '" ++ path ++ "'"), .message cause.message]
  | refused path text refusal =>
    .message ("failed to parse '" ++ path ++ "'") :: refusal.chain text

def load (path : String) (source : Except Cause String) : Except LoadFailure Settings :=
  match source with
  | .error cause => .error (.unreadable path cause)
  | .ok text => (parse text).mapError (.refused path text)

end Settings

end Understudy
