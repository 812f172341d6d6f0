/-!
# Sets of code points

A set of numbers given by its ranges in ascending order. Membership stops at the
first range that starts above the number, which is sound because the ranges
ascend (`inRanges_iff`).
-/

set_option autoImplicit false

namespace Understudy.Text

def inRanges : List (Nat × Nat) → Nat → Bool
  | [], _ => false
  | (lo, hi) :: rest, n => decide (lo ≤ n) && (decide (n ≤ hi) || inRanges rest n)

def Ascending (table : List (Nat × Nat)) : Prop :=
  table.Pairwise fun p q => p.1 ≤ q.1

theorem inRanges_iff {table : List (Nat × Nat)} (h : Ascending table) (n : Nat) :
    inRanges table n = true ↔ ∃ p ∈ table, p.1 ≤ n ∧ n ≤ p.2 := by
  induction table with
  | nil => simp [inRanges]
  | cons p rest ih =>
    obtain ⟨hp, hrest⟩ := List.pairwise_cons.1 h
    simp only [inRanges, Bool.and_eq_true, decide_eq_true_eq, Bool.or_eq_true, ih hrest,
      List.mem_cons, exists_eq_or_imp]
    constructor
    · rintro ⟨hlo, hhi | hin⟩
      · exact .inl ⟨hlo, hhi⟩
      · exact .inr hin
    · rintro (⟨hlo, hhi⟩ | ⟨q, hq, hlo, hhi⟩)
      · exact ⟨hlo, .inl hhi⟩
      · exact ⟨Nat.le_trans (hp q hq) hlo, .inr ⟨q, hq, hlo, hhi⟩⟩

end Understudy.Text
