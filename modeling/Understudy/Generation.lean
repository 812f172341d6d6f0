import Understudy.Document.Assembly
import Understudy.Files.Writing
import Understudy.Mock.Template
import Understudy.Rendering.Execution
import Understudy.Settings.Basic

/-!
# Generation of a mock file

The selected types are rendered in the order of their names and assembled into
one document, which is shown as text or written to the output file. Nothing is
written when a type cannot be rendered.
-/

set_option autoImplicit false

namespace Understudy

structure Document where
  content : Content
  rendered : Nat
  skipped : Nat

structure Report where
  output : String
  rendered : Nat
  skipped : Nat
  bytes : Nat
  mode : WriteMode
  deriving DecidableEq, Repr

namespace Settings

def selects (s : Settings) (d : Mock.Descriptor) : Bool :=
  !s.onlyProtocols || d.kind == .protocolType

def units (s : Settings) : List Mock.Descriptor :=
  (s.types.filter s.selects).mergeSort fun d e => !Text.before e.name d.name

def execute (s : Settings) (render : Mock.Renderer) : Execution :=
  Execution.ofUnits render s.units

def assemble (s : Settings) (render : Mock.Renderer) : Except Failure Document := do
  let results ← (s.execute render).result
  let assembly : Assembly := {
    header := s.header.toContent
    support := Mock.Support.leaves s.runtime
    guarded := s.header.guard?.isSome }
  return {
    content := assembly.toContent results
    rendered := results.length
    skipped := s.types.length - s.units.length }

def preview (s : Settings) (render : Mock.Renderer) : Except Failure String :=
  (s.assemble render).map fun d => d.content.text

def file (s : Settings) (d : Document) : GeneratedFile where
  path := s.output
  content := d.content
  rules := s.rules

def report (s : Settings) (d : Document) : Report where
  output := s.output
  rendered := d.rendered
  skipped := d.skipped
  bytes := d.content.length
  mode := s.rules.mode

def generate (s : Settings) (render : Mock.Renderer) : FileSystem.Write Report :=
  match s.assemble render with
  | .error failure => throw failure
  | .ok d => do
    (s.file d).write
    return s.report d

end Settings

end Understudy
