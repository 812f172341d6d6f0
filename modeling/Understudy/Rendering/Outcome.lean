import Understudy.Failure

/-!
# Outcomes of rendering

Rendering a unit gives a text, an error, or a panic. The failure of a list of
outcomes is the one at the lowest position; without any, each text is paired
with its position.
-/

set_option autoImplicit false

namespace Understudy

inductive Payload where
  | message (text : String)
  | other
  deriving DecidableEq, Repr

inductive Outcome where
  | text (text : String)
  | refused (message : String)
  | panicked (payload : Payload)
  deriving DecidableEq, Repr

structure Rendered where
  position : Nat
  text : String
  deriving DecidableEq, Repr

namespace Payload

def detail : Payload → String
  | message text => text
  | other => "unknown panic payload"

end Payload

namespace Outcome

def toExcept : Outcome → Except String String
  | text t => .ok t
  | refused message => .error message
  | panicked payload => .error ("renderer panicked: " ++ payload.detail)

def collectFrom (position : Nat) : List Outcome → Except Failure (List Rendered)
  | [] => .ok []
  | o :: os =>
    match o.toExcept with
    | .error cause => .error (.notRendered position cause)
    | .ok t => (collectFrom (position + 1) os).map (⟨position, t⟩ :: ·)

def collect (outcomes : List Outcome) : Except Failure (List Rendered) := collectFrom 0 outcomes

end Outcome

end Understudy
