import Understudy.Rendering.Outcome

/-!
# Rendering all units

Every unit is rendered once, also after one has failed, and the outcomes are
collected by position. The number of workers decides nothing but who renders.
-/

set_option autoImplicit false

namespace Understudy

structure Execution where
  result : Except Failure (List Rendered)
  calls : Nat

namespace Execution

def renderAll {α : Type} (render : α → Outcome) : List α → Nat → List Outcome × Nat
  | [], calls => ([], calls)
  | u :: us, calls =>
    let outcome := render u
    let (outcomes, calls) := renderAll render us (calls + 1)
    (outcome :: outcomes, calls)

theorem renderAll_eq {α : Type} (render : α → Outcome) (units : List α) (calls : Nat) :
    renderAll render units calls = (units.map render, calls + units.length) := by
  induction units generalizing calls with
  | nil => rfl
  | cons u us ih => simp [renderAll, ih, Nat.add_comm, Nat.add_left_comm]

def ofUnits {α : Type} (render : α → Outcome) (units : List α) : Execution :=
  let (outcomes, calls) := renderAll render units 0
  { result := Outcome.collect outcomes, calls }

def workers (requested : Nat) : Nat := max requested 1

end Execution

end Understudy
