import Mathlib.Data.List.Nodup
import Understudy.Proofs.Document.Composition

/-!
# The arrangement of a document

An assembly is set up in steps, of which the support declarations add up and the last
end of a guard holds. Whatever the steps and the results, the text is that of the
parts that are not empty (`text_arranged`), and results at different positions give
one document in whatever order they come (`toContent_of_perm`).
-/

set_option autoImplicit false

namespace Understudy

/-- The texts that are not empty, with a separator between them. -/
def Layout.joined (separator : String) (texts : List String) : String :=
  separator.intercalate (texts.filter (· ≠ ""))

namespace Assembly

variable {a : Assembly} {results others : List Rendered}

section Steps

def Step.leaves : Step → List Content
  | .support leaves => leaves
  | .runtime name => Mock.Support.leaves name
  | .closeGuard _ => []

def Step.guard? : Step → Option Bool
  | .closeGuard guarded => some guarded
  | _ => none

def supportOf (list : List Step) : List Content := list.flatMap Step.leaves

def guardedBy (list : List Step) : Bool := (list.filterMap Step.guard?).getLast?.getD false

theorem header_steps (a : Assembly) (list : List Step) : (a.steps list).header = a.header := by
  induction list generalizing a with
  | nil => rfl
  | cons s list ih =>
    rw [steps, List.foldl_cons, ← steps, ih]
    cases s <;> rfl

theorem support_steps (a : Assembly) (list : List Step) :
    (a.steps list).support = a.support ++ supportOf list := by
  induction list generalizing a with
  | nil => simp [steps, supportOf]
  | cons s list ih =>
    rw [steps, List.foldl_cons, ← steps, ih]
    cases s <;> simp [step, supportOf, Step.leaves]

theorem guarded_steps (a : Assembly) (list : List Step) :
    (a.steps list).guarded = (list.filterMap Step.guard?).getLast?.getD a.guarded := by
  induction list generalizing a with
  | nil => rfl
  | cons s list ih =>
    rw [steps, List.foldl_cons, ← steps, ih]
    cases s with
    | closeGuard guarded => simp [step, Step.guard?, List.getLast?_cons]
    | _ => rfl

end Steps

section Order

theorem position_trans (r s t : Rendered) (h : decide (r.position ≤ s.position) = true)
    (h' : decide (s.position ≤ t.position) = true) : decide (r.position ≤ t.position) = true := by
  simp only [decide_eq_true_eq] at h h' ⊢
  exact Nat.le_trans h h'

theorem position_total (r s : Rendered) :
    (decide (r.position ≤ s.position) || decide (s.position ≤ r.position)) = true := by
  simpa using Nat.le_total r.position s.position

theorem pairwise_inOrder (results : List Rendered) :
    (inOrder results).Pairwise fun r s => r.position ≤ s.position := by
  have h := List.pairwise_mergeSort position_trans position_total results
  exact h.imp of_decide_eq_true

theorem inOrder_eq (h : results.Pairwise fun r s => r.position < s.position) :
    inOrder results = results := by
  apply List.mergeSort_of_pairwise
  exact h.imp fun hlt => decide_eq_true (Nat.le_of_lt hlt)

theorem filter_inOrder (results : List Rendered) (position : Nat) :
    (inOrder results).filter (fun r => r.position == position) =
      results.filter fun r => r.position == position := by
  apply Text.filter_mergeSort position_trans position_total
  intro r s hr hs
  rw [eq_of_beq hr, eq_of_beq hs]
  exact decide_eq_true (Nat.le_refl position)

theorem inOrder_of_perm (h : others.Perm results) (hd : (results.map (·.position)).Nodup) :
    inOrder others = inOrder results := by
  refine (Text.mergeSort_eq_of_perm position_trans position_total h.symm ?_).symm
  intro r hr s hs hrs hsr
  have hp : r.position = s.position :=
    Nat.le_antisymm (of_decide_eq_true hrs) (of_decide_eq_true hsr)
  exact List.inj_on_of_nodup_map hd hr hs hp

theorem toContent_of_perm (a : Assembly) (h : others.Perm results)
    (hd : (results.map (·.position)).Nodup) : a.toContent others = a.toContent results := by
  rw [toContent, toContent, body, body, inOrder_of_perm h hd, h.isEmpty_eq]

end Order

theorem text_body_joined (hs : ∀ c ∈ a.support, c.Trim) : (a.body results).text =
    if results = [] then ""
    else Layout.joined "\n\n"
      (a.support.map Content.text ++ (inOrder results).map (·.text)) := by
  rw [text_body hs, declarations, Layout.joined]
  split
  · rfl
  · simp [Function.comp_def]

theorem trim_supportOf {list : List Step}
    (hs : ∀ leaves, Step.support leaves ∈ list → ∀ c ∈ leaves, c.Trim) :
    ∀ c ∈ supportOf list, c.Trim := by
  intro c hc
  obtain ⟨s, hm, hc⟩ := List.mem_flatMap.1 hc
  cases s with
  | support leaves => exact hs leaves hm c hc
  | runtime name =>
    obtain ⟨t, -, rfl⟩ := List.mem_map.1 hc
    exact Content.trim_leaf t
  | closeGuard guarded => cases hc

/-- The text of a document whose header and support declarations are without empty
children, as all trees are that can be built (`Outline.trim_iff_builds`). The results come
in ascending position, those at one position as they have arrived, so where the positions
differ any order of arrival gives the same document. -/
theorem text_arranged (header : Content) (list : List Step) (results : List Rendered)
    (hh : header.Trim) (hs : ∀ leaves, Step.support leaves ∈ list → ∀ c ∈ leaves, c.Trim) :
    let a : Assembly := ({ header } : Assembly).steps list
    (a.toContent results).text = Layout.joined "\n" [header.text,
        if results = [] then ""
        else Layout.joined "\n\n"
          ((supportOf list).map Content.text ++ (inOrder results).map (·.text)),
        if guardedBy list then "\n#endif" else ""] ++ "\n" ∧
      (inOrder results).Pairwise (fun r s => r.position ≤ s.position) ∧
      (∀ position, (inOrder results).filter (fun r => r.position == position) =
        results.filter fun r => r.position == position) ∧
      ∀ others, others.Perm results → (results.map (·.position)).Nodup →
        a.toContent others = a.toContent results := by
  intro a
  have hheader : a.header = header := header_steps _ list
  have hsupport : a.support = supportOf list := support_steps _ list
  have hguarded : a.guarded = guardedBy list := guarded_steps _ list
  have htrim : ∀ c ∈ a.support, c.Trim := hsupport ▸ trim_supportOf hs
  refine ⟨?_, pairwise_inOrder results, filter_inOrder results,
    fun _ h hd => toContent_of_perm a h hd⟩
  rw [text_toContent (hheader ▸ hh) htrim, text_body_joined htrim, hheader, hsupport, hguarded,
    ← Layout.joined]

/-- Results with gaps between their positions, one of them empty, below a header without
text, and a guard that is opened again and closed. -/
theorem late_result_arranged :
    let list : List Step := [.closeGuard true, .support [.leaf "S", .empty], .closeGuard false,
      .support [.group [] none (some "T")], .closeGuard true]
    let results : List Rendered := [⟨18446744073709551615, "B"⟩, ⟨7, "A"⟩, ⟨8, ""⟩]
    let sorted : List Rendered := [⟨7, "A"⟩, ⟨8, ""⟩, ⟨18446744073709551615, "B"⟩]
    let a : Assembly := ({ header := .empty } : Assembly).steps list
    Content.empty.Trim ∧ (∀ leaves, Step.support leaves ∈ list → ∀ c ∈ leaves, c.Trim) ∧
      (results.map (·.position)).Nodup ∧
      sorted.Perm results ∧ (a.toContent results).text = "S\n\nT\n\nA\n\nB\n\n#endif\n" := by
  intro list results sorted a
  have hd : (results.map (·.position)).Nodup := by decide
  have hp : sorted.Perm results := by decide
  have hs : ∀ leaves, Step.support leaves ∈ list → ∀ c ∈ leaves, c.Trim := by
    simp [list, Content.Trim, Content.TrimAll, Content.empty]
  obtain ⟨-, -, -, hperm⟩ := text_arranged .empty list results trivial hs
  obtain ⟨htext, -⟩ := text_arranged .empty list sorted trivial hs
  refine ⟨trivial, hs, hd, hp, ?_⟩
  rw [← hperm _ hp hd, htext, inOrder_eq (by decide)]
  decide

end Assembly

end Understudy
