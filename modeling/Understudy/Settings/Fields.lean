import Understudy.Settings.Basic
import Understudy.Toml.Value

/-!
# Settings by their fields

The settings of a table, said field by field: a field is looked up by its name,
has a value of its type or else its default, and a table with any other field
has no settings. The order of the entries plays no part.
-/

set_option autoImplicit false

namespace Understudy

namespace Toml.Value

def text? : Value → Option String
  | .string text => some text
  | _ => none

def flag? : Value → Option Bool
  | .boolean b => some b
  | _ => none

def count? : Value → Option Nat
  | .integer n => if 0 ≤ n ∧ n < Int.pow 2 64 then some n.toNat else none
  | _ => none

def chosen? {α : Type} (choice : Text.Choice α) : Value → Option α
  | .string name => choice.find? name
  | _ => none

def list? {α : Type} (read : Value → Option α) : Value → Option (List α)
  | .array items => items.mapM read
  | _ => none

end Toml.Value

namespace Toml.Table

def get? (table : Table) (key : String) : Option Value :=
  (table.find? fun e => e.1 == key).map (·.2)

/-- A field that has to be there. -/
def required {α : Type} (table : Table) (key : String) (read : Value → Option α) : Option α :=
  (get? table key).bind read

/-- A field that may be missing, but not have a value of another type. -/
def field {α : Type} (table : Table) (key : String) (read : Value → Option α) (default : α) :
    Option α :=
  match get? table key with
  | none => some default
  | some value => read value

end Toml.Table

open Toml Toml.Value Toml.Table

/-- Other fields of a descriptor are passed over. -/
def Mock.Descriptor.ofFields? : Value → Option Mock.Descriptor
  | .table entries => do
    some {
      name := ← required entries "name" text?
      kind := ← required entries "kind" (chosen? Kind.choice)
      members := ← field entries "members" (list? text?) [] }
  | _ => none

def Settings.ofFields? (table : Table) : Option Settings :=
  if table.all fun e => fieldNames.contains e.1 then do
    let defaults : Settings := {}
    some {
      moduleName := ← field table "module" text? defaults.moduleName
      output := ← field table "output" text? defaults.output
      imports := .ofList (← field table "imports" (list? text?) [])
      importModule := ← field table "import_module" flag? defaults.importModule
      runtime := ← field table "runtime" text? defaults.runtime
      condition := ← field table "condition" (fun v => v.text?.map some) defaults.condition
      onlyProtocols := ← field table "only_protocols" flag? defaults.onlyProtocols
      disableLint := ← field table "disable_lint" flag? defaults.disableLint
      atomic := ← field table "atomic" flag? defaults.atomic
      encoding := ← field table "encoding" (chosen? Encoding.choice) defaults.encoding
      jobs := ← field table "jobs" (fun v => v.count?.map some) defaults.jobs
      types := ← field table "types" (list? Mock.Descriptor.ofFields?) defaults.types }
  else none

end Understudy
