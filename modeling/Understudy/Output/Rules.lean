import Understudy.Output.Encoding

/-!
# How a file is written

A file is written atomically, through a temporary file that takes its place at
the end, or directly, in place.
-/

set_option autoImplicit false

namespace Understudy

inductive WriteMode where
  | atomic
  | direct
  deriving DecidableEq, Repr

namespace WriteMode

def name : WriteMode → String
  | atomic => "atomic"
  | direct => "direct"

def choice : Text.Choice WriteMode := ⟨[("atomic", atomic), ("direct", direct)]⟩

end WriteMode

structure Rules where
  mode : WriteMode := .atomic
  encoding : Encoding := .utf8
  deriving DecidableEq, Repr

namespace Rules

def direct : Rules := { mode := .direct }

end Rules

end Understudy
