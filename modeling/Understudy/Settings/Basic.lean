import Understudy.Document.Header
import Understudy.Files.Path
import Understudy.Mock.Descriptor
import Understudy.Output.Rules

/-!
# Settings of a generation

What is generated, from which types, into which file and how. Settings are valid
when they name a module, ask for a worker and declare no type twice.
-/

set_option autoImplicit false

namespace Understudy

structure Settings where
  moduleName : String := ""
  output : String := Header.defaultFileName
  imports : Text.Sorted := .empty
  importModule : Bool := true
  runtime : String := "MockgenRuntime"
  condition : Option String := none
  onlyProtocols : Bool := false
  disableLint : Bool := false
  atomic : Bool := true
  encoding : Encoding := .utf8
  jobs : Option Nat := none
  types : List Mock.Descriptor := []

namespace Settings

def fieldNames : List String :=
  ["module", "output", "imports", "import_module", "runtime", "condition", "only_protocols",
    "disable_lint", "atomic", "encoding", "jobs", "types"]

inductive Invalid where
  | noModule
  | noJobs
  | repeated (name : String)
  deriving DecidableEq, Repr

def Invalid.message : Invalid → String
  | noModule => "\x60module\x60 must be set"
  | noJobs => "\x60jobs\x60 must be at least 1"
  | repeated name => "type \x60" ++ name ++ "\x60 is declared more than once"

/-- The first of the names that is already among those before it. -/
def firstRepeated? (seen : List String) : List String → Option String
  | [] => none
  | name :: rest => if name ∈ seen then some name else firstRepeated? (name :: seen) rest

def invalid? (s : Settings) : Option Invalid :=
  if Text.isAllBlank s.moduleName then some .noModule
  else if s.jobs = some 0 then some .noJobs
  else (firstRepeated? [] (s.types.map (·.name))).map .repeated

def outputName (s : Settings) : String := (Path.fileName? s.output).getD Header.defaultFileName

def rules (s : Settings) : Rules where
  mode := if s.atomic then .atomic else .direct
  encoding := s.encoding

def importLines (s : Settings) : List String :=
  s.imports.toList ++ ["import Foundation", "@testable import " ++ s.runtime] ++
    if s.importModule then ["@testable import " ++ s.moduleName] else []

def header (s : Settings) : Header :=
  (Header.new s.outputName s.moduleName).steps
    [.imports s.importLines, .disableLint s.disableLint, .condition s.condition]

end Settings

end Understudy
