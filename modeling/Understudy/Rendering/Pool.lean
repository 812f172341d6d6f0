import Understudy.Rendering.Execution

/-!
# A pool of workers

Each unit has a slot. A worker with nothing to do claims a slot that is waiting,
calls the render function on its unit, and puts the outcome into that slot.
`Step` is one of these events and `Reached` a moment of some run, so that a
statement about every moment reached holds for every schedule.
-/

set_option autoImplicit false

namespace Understudy

inductive Slot where
  | waiting
  | claimed (worker : Nat)
  | done (outcome : Outcome)
  deriving DecidableEq, Repr

structure Pool where
  slots : List Slot
  calls : List Nat := []
  deriving DecidableEq, Repr

namespace Slot

def outcome? : Slot → Option Outcome
  | done outcome => some outcome
  | _ => none

end Slot

namespace Pool

def start (units : Nat) : Pool := { slots := List.replicate units .waiting }

def finished (p : Pool) : Bool := p.slots.all fun s => s.outcome?.isSome

def outcomes (p : Pool) : List Outcome := p.slots.filterMap Slot.outcome?

def toExecution (p : Pool) : Execution where
  result := Outcome.collect p.outcomes
  calls := p.calls.length

section Runs

variable {α : Type} (workers : Nat) (render : α → Outcome) (units : List α)

inductive Step : Pool → Pool → Prop
  | claim {p : Pool} {position worker : Nat} :
      p.slots[position]? = some .waiting →
      worker < Execution.workers workers →
      .claimed worker ∉ p.slots →
      Step p { slots := p.slots.set position (.claimed worker), calls := position :: p.calls }
  | finish {p : Pool} {position worker : Nat} {unit : α} :
      p.slots[position]? = some (.claimed worker) →
      units[position]? = some unit →
      Step p { p with slots := p.slots.set position (.done (render unit)) }

inductive Reached : Pool → Prop
  | start : Reached (start units.length)
  | step {p q : Pool} : Reached p → Step workers render units p q → Reached q

end Runs

end Pool

end Understudy
