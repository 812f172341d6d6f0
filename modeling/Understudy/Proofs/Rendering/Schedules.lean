import Understudy.Rendering.Pool

/-!
# Every schedule comes to the same

A run of the pool claims and fills slots in some order. `Orderly` is what every
moment of it has in common: a filled slot holds the outcome of its own unit, and
the positions called are those that are no longer waiting, each of them once.
A step lowers the work that remains, and until none remains there is a step, so
every schedule ends, and at its end the outcomes are those of rendering one
after the other. `Verdict` says what these come to.
-/

set_option autoImplicit false

namespace Understudy

namespace Outcome

inductive FailsWith : Outcome → String → Prop
  | refused (message : String) : FailsWith (.refused message) message
  | panicked (message : String) :
      FailsWith (.panicked (.message message)) ("renderer panicked: " ++ message)
  | panickedOther : FailsWith (.panicked .other) "renderer panicked: unknown panic payload"

theorem failsWith_iff {o : Outcome} {cause : String} :
    o.FailsWith cause ↔ o.toExcept = .error cause := by
  constructor
  · intro h
    cases h <;> rfl
  · intro h
    match o with
    | .text t => simp [toExcept] at h
    | .refused message =>
      obtain rfl : message = cause := by simpa [toExcept] using h
      exact .refused message
    | .panicked (.message message) =>
      obtain rfl : "renderer panicked: " ++ message = cause := by
        simpa [toExcept, Payload.detail] using h
      exact .panicked message
    | .panicked .other =>
      obtain rfl : "renderer panicked: " ++ "unknown panic payload" = cause := by
        simpa only [toExcept, Payload.detail, Except.error.injEq] using h
      exact .panickedOther

theorem toExcept_eq_ok {o : Outcome} {t : String} : o.toExcept = .ok t ↔ o = .text t := by
  cases o <;> simp [toExcept]

theorem collectFrom_ok {position : Nat} {os : List Outcome} {results : List Rendered}
    (h : collectFrom position os = .ok results) : results.length = os.length ∧
      ∀ i o, os[i]? = some o → ∃ t, o = .text t ∧ results[i]? = some (Rendered.mk (position + i) t) := by
  induction os generalizing position results with
  | nil =>
    obtain rfl : [] = results := by simpa [collectFrom] using h
    simp
  | cons o os ih =>
    cases ho : o.toExcept with
    | error cause => simp [collectFrom, ho] at h
    | ok t =>
      simp only [collectFrom, ho] at h
      cases hc : collectFrom (position + 1) os with
      | error f => simp [hc, Except.map] at h
      | ok rs =>
        obtain rfl : Rendered.mk position t :: rs = results := by simpa [hc, Except.map] using h
        obtain ⟨hl, hr⟩ := ih hc
        refine ⟨by simp [hl], fun i v hv => ?_⟩
        cases i with
        | zero =>
          obtain rfl : o = v := by simpa using hv
          exact ⟨t, toExcept_eq_ok.1 ho, rfl⟩
        | succ i =>
          obtain ⟨u, hu, hi⟩ := hr i v (by simpa using hv)
          exact ⟨u, hu, by simpa [Nat.add_assoc, Nat.add_comm 1 i] using hi⟩

theorem collectFrom_error {position : Nat} {os : List Outcome} {f : Failure}
    (h : collectFrom position os = .error f) :
    ∃ i o cause, os[i]? = some o ∧ o.FailsWith cause ∧ f = .notRendered (position + i) cause ∧
      ∀ j v, j < i → os[j]? = some v → ∃ t, v = .text t := by
  induction os generalizing position with
  | nil => simp [collectFrom] at h
  | cons o os ih =>
    cases ho : o.toExcept with
    | error cause =>
      obtain rfl : Failure.notRendered position cause = f := by simpa [collectFrom, ho] using h
      exact ⟨0, o, cause, rfl, failsWith_iff.2 ho, rfl, fun j v hj => absurd hj (Nat.not_lt_zero j)⟩
    | ok t =>
      simp only [collectFrom, ho] at h
      cases hc : collectFrom (position + 1) os with
      | ok rs => simp [hc, Except.map] at h
      | error g =>
        obtain rfl : g = f := by simpa [hc, Except.map] using h
        obtain ⟨i, v, cause, hi, hf, hg, hb⟩ := ih hc
        refine ⟨i + 1, v, cause, by simpa using hi, hf, ?_, fun j w hj hw => ?_⟩
        · rw [hg, Nat.add_assoc, Nat.add_comm 1 i]
        · cases j with
          | zero =>
            obtain rfl : o = w := by simpa using hw
            exact ⟨t, toExcept_eq_ok.1 ho⟩
          | succ j => exact hb j w (by omega) (by simpa using hw)

end Outcome

section Verdicts

variable {α : Type}

/-- What units come to when each is rendered: the texts at their positions, or the
failure at the lowest position that has one. -/
inductive Verdict (render : α → Outcome) (units : List α) : Except Failure (List Rendered) → Prop
  | rendered {results : List Rendered} :
      results.length = units.length →
      (∀ i u, units[i]? = some u →
        ∃ t, render u = .text t ∧ results[i]? = some (Rendered.mk i t)) →
      Verdict render units (.ok results)
  | failed {i : Nat} {u : α} {cause : String} :
      units[i]? = some u → (render u).FailsWith cause →
      (∀ j v, j < i → units[j]? = some v → ∃ t, render v = .text t) →
      Verdict render units (.error (.notRendered i cause))

theorem collect_verdict (render : α → Outcome) (units : List α) :
    Verdict render units (Outcome.collect (units.map render)) := by
  cases hc : Outcome.collect (units.map render) with
  | ok results =>
    obtain ⟨hl, hr⟩ := Outcome.collectFrom_ok hc
    refine .rendered (by simpa using hl) fun i u hu => ?_
    simpa using hr i (render u) (by simp [hu])
  | error f =>
    obtain ⟨i, o, cause, hi, hf, rfl, hb⟩ := Outcome.collectFrom_error hc
    rw [List.getElem?_map] at hi
    obtain ⟨u, hu, rfl⟩ := Option.map_eq_some_iff.1 hi
    rw [Nat.zero_add]
    exact .failed hu hf fun j v hj hv => hb j (render v) hj (by simp [hv])

end Verdicts

namespace Slot

def steps : Slot → Nat
  | waiting => 2
  | claimed _ => 1
  | done _ => 0

end Slot

namespace Pool

def stepsOf : List Slot → Nat
  | [] => 0
  | s :: slots => s.steps + stepsOf slots

def remaining (p : Pool) : Nat := stepsOf p.slots

theorem stepsOf_set {slots : List Slot} {i : Nat} {s : Slot} (h : slots[i]? = some s) (t : Slot) :
    stepsOf (slots.set i t) + s.steps = stepsOf slots + t.steps := by
  induction slots generalizing i with
  | nil => simp at h
  | cons r slots ih =>
    cases i with
    | zero =>
      obtain rfl : r = s := by simpa using h
      simp only [List.set_cons_zero, stepsOf]
      omega
    | succ i =>
      have hi := ih (i := i) (by simpa using h)
      simp only [List.set_cons_succ, stepsOf]
      omega

section Runs

variable {α : Type} {workers : Nat} {render : α → Outcome} {units : List α} {p q : Pool}

theorem step_remaining (h : Step workers render units p q) : q.remaining + 1 = p.remaining := by
  cases h with
  | @claim position worker hs _ _ =>
    have hw := stepsOf_set hs (.claimed worker)
    simp only [Slot.steps] at hw
    simp only [remaining]
    omega
  | @finish position worker unit hs _ =>
    have hw := stepsOf_set hs (.done (render unit))
    simp only [Slot.steps] at hw
    simp only [remaining]
    omega

/-- No schedule goes on for ever. -/
theorem wellFounded_step (workers : Nat) (render : α → Outcome) (units : List α) :
    WellFounded fun q p => Step workers render units p q := by
  refine Subrelation.wf (r := InvImage (· < ·) remaining) ?_ (InvImage.wf remaining Nat.lt_wfRel.wf)
  intro q p h
  have hr := step_remaining h
  show q.remaining < p.remaining
  omega

/-- What every moment of every run has in common. -/
structure Orderly (render : α → Outcome) (units : List α) (p : Pool) : Prop where
  length_eq : p.slots.length = units.length
  done : ∀ (i : Nat) (o : Outcome), p.slots[i]? = some (Slot.done o) →
    ∃ u, units[i]? = some u ∧ o = render u
  called_once : p.calls.Nodup
  called : ∀ i : Nat, i ∈ p.calls ↔ ∃ s, p.slots[i]? = some s ∧ s ≠ Slot.waiting

theorem orderly_start (render : α → Outcome) (units : List α) :
    Orderly render units (start units.length) where
  length_eq := by simp [start]
  done := by simp [start, List.getElem?_replicate]
  called_once := List.nodup_nil
  called := by simp [start, List.getElem?_replicate]

theorem step_orderly (h : Step workers render units p q) (hp : Orderly render units p) :
    Orderly render units q := by
  cases h with
  | @claim position worker hs _ _ =>
    have hlt := (List.getElem?_eq_some_iff.1 hs).1
    have hnew : position ∉ p.calls := fun hm => by
      obtain ⟨s, hs', hne⟩ := (hp.called position).1 hm
      exact hne (Option.some.inj (hs'.symm.trans hs))
    refine ⟨by simpa using hp.length_eq, fun i o ho => ?_, List.nodup_cons.2 ⟨hnew, hp.called_once⟩,
      fun i => ?_⟩
    · by_cases hi : position = i
      · subst hi
        simp [hlt] at ho
      · exact hp.done i o (by simpa [List.getElem?_set_ne hi] using ho)
    · by_cases hi : position = i
      · subst hi
        simp [hlt]
      · simp [List.getElem?_set_ne hi, Ne.symm hi, hp.called i]
  | @finish position worker unit hs hu =>
    have hlt := (List.getElem?_eq_some_iff.1 hs).1
    refine ⟨by simpa using hp.length_eq, fun i o ho => ?_, hp.called_once, fun i => ?_⟩
    · by_cases hi : position = i
      · subst hi
        obtain rfl : render unit = o := by simpa [hlt] using ho
        exact ⟨unit, hu, rfl⟩
      · exact hp.done i o (by simpa [List.getElem?_set_ne hi] using ho)
    · rw [hp.called i]
      by_cases hi : position = i
      · subst hi
        rw [hs, List.getElem?_set_self hlt]
        simp
      · simp [List.getElem?_set_ne hi]

theorem reached_orderly (h : Reached workers render units p) : Orderly render units p := by
  induction h with
  | start => exact orderly_start render units
  | step _ hs ih => exact step_orderly hs ih

/-- The render function is called on units only. -/
theorem unit_of_called (hp : Orderly render units p) {position : Nat} (hc : position ∈ p.calls) :
    ∃ u ∈ units, units[position]? = some u := by
  obtain ⟨slot, hs, -⟩ := (hp.called position).1 hc
  have hlt : position < units.length := hp.length_eq ▸ (List.getElem?_eq_some_iff.1 hs).1
  exact ⟨units[position], List.getElem_mem hlt, List.getElem?_eq_getElem hlt⟩

theorem finished_iff : p.finished = true ↔ ∀ s ∈ p.slots, ∃ o, s = .done o := by
  simp only [finished, List.all_eq_true]
  refine forall₂_congr fun s _ => ?_
  cases s <;> simp [Slot.outcome?]

/-- As long as a unit has no outcome there is something to do: one in progress can be
finished, and if there is none, every worker is free to claim. -/
theorem unfinished_step (hp : Orderly render units p) (hf : p.finished = false) :
    ∃ q, Step workers render units p q := by
  by_cases hc : ∃ worker, Slot.claimed worker ∈ p.slots
  · obtain ⟨worker, hw⟩ := hc
    obtain ⟨i, hi⟩ := List.mem_iff_getElem?.1 hw
    have hlt : i < units.length := hp.length_eq ▸ (List.getElem?_eq_some_iff.1 hi).1
    exact ⟨_, .finish hi (List.getElem?_eq_getElem hlt)⟩
  · obtain ⟨s, hs, hne⟩ := List.all_eq_false.1 hf
    have hw : s = .waiting := by
      cases s with
      | waiting => rfl
      | claimed worker => exact absurd ⟨worker, hs⟩ hc
      | done o => exact absurd rfl hne
    obtain ⟨i, hi⟩ := List.mem_iff_getElem?.1 (hw ▸ hs)
    have hfree : 0 < Execution.workers workers := by unfold Execution.workers; omega
    exact ⟨_, .claim hi hfree fun h0 => hc ⟨0, h0⟩⟩

theorem outcomes_of_finished (hp : Orderly render units p) (hf : p.finished = true) :
    p.outcomes = units.map render := by
  have hs : p.slots = (units.map render).map .done := by
    apply List.ext_getElem?
    intro i
    cases hi : p.slots[i]? with
    | none =>
      have hle := hp.length_eq ▸ List.getElem?_eq_none_iff.1 hi
      simp [List.getElem?_eq_none hle]
    | some s =>
      obtain ⟨o, rfl⟩ := finished_iff.1 hf s (List.mem_of_getElem? hi)
      obtain ⟨u, hu, rfl⟩ := hp.done i o hi
      simp [hu]
  rw [outcomes, hs, List.filterMap_map]
  simp [Function.comp_def, Slot.outcome?]

theorem calls_of_finished (hp : Orderly render units p) (hf : p.finished = true) :
    p.calls.Perm (List.range units.length) := by
  refine (List.perm_ext_iff_of_nodup hp.called_once List.nodup_range).2 fun i => ?_
  rw [hp.called i, List.mem_range, ← hp.length_eq]
  constructor
  · rintro ⟨s, hs, -⟩
    exact (List.getElem?_eq_some_iff.1 hs).1
  · intro hi
    obtain ⟨o, ho⟩ := finished_iff.1 hf _ (List.getElem_mem hi)
    exact ⟨.done o, by rw [List.getElem?_eq_getElem hi, ho], by simp⟩

theorem toExecution_of_finished (hp : Orderly render units p) (hf : p.finished = true) :
    p.toExecution = Execution.ofUnits render units := by
  have hl := (calls_of_finished hp hf).length_eq
  rw [List.length_range] at hl
  simp [toExecution, Execution.ofUnits, Execution.renderAll_eq, outcomes_of_finished hp hf, hl]

end Runs

/-- Whatever the number of workers and the order in which they claim and finish
units: no unit is ever rendered twice, the run goes on until all have been
rendered, and it cannot go on for ever. Then the execution is the sequential one,
with the texts in order or the failure at the lowest position. -/
theorem every_schedule_agrees {α : Type} {workers : Nat} {render : α → Outcome} {units : List α}
    {p : Pool} (h : Reached workers render units p) :
    p.calls.Nodup ∧
      (p.finished = false → ∃ q, Step workers render units p q) ∧
      (WellFounded fun r q => Step workers render units q r) ∧
      (p.finished = true →
        p.calls.Perm (List.range units.length) ∧
          p.toExecution = Execution.ofUnits render units ∧
          Verdict render units p.toExecution.result) := by
  have hp := reached_orderly h
  refine ⟨hp.called_once, unfinished_step hp, wellFounded_step workers render units, fun hf => ?_⟩
  refine ⟨calls_of_finished hp hf, toExecution_of_finished hp hf, ?_⟩
  rw [toExecution, outcomes_of_finished hp hf]
  exact collect_verdict render units

/-- Two workers take the last two units first. The refusal comes before the panic in
time and after it in position. -/
theorem late_panic_schedule_agrees :
    let units : List Outcome := [.text "A", .panicked (.message "m"), .refused "no"]
    let p : Pool := ⟨units.map .done, [0, 1, 2]⟩
    Reached 2 id units p ∧ p.finished = true ∧ p.calls.Perm [0, 1, 2] ∧
      p.toExecution.result = .error (.notRendered 1 "renderer panicked: m") := by
  intro units p
  have h₁ : Reached 2 id units ⟨[.waiting, .claimed 1, .claimed 0], [1, 2]⟩ :=
    .step (.step .start (@Step.claim Outcome 2 id units _ 2 0 rfl (by decide) (by decide)))
      (@Step.claim Outcome 2 id units _ 1 1 rfl (by decide) (by decide))
  have h₂ : Reached 2 id units ⟨[.waiting, .done (units[1]), .done (units[2])], [1, 2]⟩ :=
    .step (.step h₁ (@Step.finish Outcome 2 id units _ 2 0 units[2] rfl rfl))
      (@Step.finish Outcome 2 id units _ 1 1 units[1] rfl rfl)
  have h₃ : Reached 2 id units p :=
    .step (.step h₂ (@Step.claim Outcome 2 id units _ 0 0 rfl (by decide) (by decide)))
      (@Step.finish Outcome 2 id units _ 0 0 units[0] rfl rfl)
  obtain ⟨-, -, -, agrees⟩ := every_schedule_agrees h₃
  obtain ⟨calls, execution, -⟩ := agrees rfl
  exact ⟨h₃, rfl, calls, by rw [execution]; rfl⟩

end Pool

end Understudy
