import Understudy.Rendering.Execution

/-!
# Results of rendering

When no outcome is a failure, the results are the texts in their order, and their
positions ascend.
-/

set_option autoImplicit false

namespace Understudy

namespace Outcome

variable {position : Nat} {os : List Outcome} {results : List Rendered}

theorem collectFrom_texts (h : collectFrom position os = .ok results) :
    os = results.map (fun r => .text r.text) ∧ (∀ r ∈ results, position ≤ r.position) ∧
      results.Pairwise fun r s => r.position < s.position := by
  induction os generalizing position results with
  | nil =>
    obtain rfl : [] = results := Except.ok.inj h
    simp
  | cons o os ih =>
    rw [collectFrom] at h
    cases o with
    | text t =>
      cases hc : collectFrom (position + 1) os with
      | error f => simp [toExcept, hc, Except.map] at h
      | ok rest =>
        obtain rfl : Rendered.mk position t :: rest = results := by
          simpa [toExcept, hc, Except.map] using h
        obtain ⟨htexts, hafter, hascends⟩ := ih hc
        refine ⟨by rw [htexts]; rfl, ?_, List.pairwise_cons.2 ⟨hafter, hascends⟩⟩
        intro r hr
        rcases List.mem_cons.1 hr with rfl | hr
        · exact Nat.le_refl position
        · exact Nat.le_of_succ_le (hafter r hr)
    | refused message => simp [toExcept] at h
    | panicked payload => simp [toExcept] at h

theorem collectFrom_map_text (position : Nat) (texts : List String) :
    ∃ results, collectFrom position (texts.map .text) = .ok results := by
  induction texts generalizing position with
  | nil => exact ⟨[], rfl⟩
  | cons t ts ih =>
    obtain ⟨rest, hr⟩ := ih (position + 1)
    exact ⟨⟨position, t⟩ :: rest, by simp [collectFrom, toExcept, hr, Except.map]⟩

end Outcome

theorem Execution.result_ofUnits {α : Type} (render : α → Outcome) (units : List α) :
    (ofUnits render units).result = Outcome.collect (units.map render) := by
  rw [ofUnits, renderAll_eq]

end Understudy
