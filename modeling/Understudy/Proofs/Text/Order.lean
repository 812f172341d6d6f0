import Understudy.Text.Sorted

/-!
# Sorting by byte order

Sorting by a text that each member has gives an ascending list, keeps members
with equal texts in their order (`filter_sortedBy`), and depends on the order of
the list only as far as texts are equal (`sortedBy_eq_of_perm`). A list that
ascends strictly is determined by its members (`eq_of_mem_iff`).
-/

set_option autoImplicit false

namespace Understudy.Text

theorem not_before_trans {r s t : String} (h : before s r = false) (h' : before t s = false) :
    before t r = false := by
  cases ht : before t r with
  | false => rfl
  | true =>
    by_cases hst : s = t
    · rw [← hst, h] at ht
      cases ht
    · rw [before_trans (before_total h' (Ne.symm hst)) ht] at h
      exact h

theorem not_before_or (s t : String) : before t s = false ∨ before s t = false := by
  cases hs : before s t with
  | false => exact .inr rfl
  | true =>
    left
    cases ht : before t s with
    | false => rfl
    | true => simpa [before_irrefl] using before_trans hs ht

theorem eq_of_not_before {s t : String} (h : before s t = false) (h' : before t s = false) :
    s = t := by
  by_cases he : s = t
  · exact he
  · rw [before_total h he] at h'
    cases h'

theorem nodup_of_ascends {l : List String} (h : Ascends l) : l.Nodup := by
  refine h.imp fun hb he => ?_
  rw [he, before_irrefl] at hb
  cases hb

theorem eq_of_mem_iff {l l' : List String} (h : Ascends l) (h' : Ascends l')
    (hm : ∀ x, x ∈ l ↔ x ∈ l') : l = l' := by
  have hperm := (List.perm_ext_iff_of_nodup (nodup_of_ascends h) (nodup_of_ascends h')).2 hm
  refine hperm.eq_of_pairwise (fun s t _ _ hs ht => ?_) h h'
  simpa [before_irrefl] using before_trans hs ht

theorem nodup_eraseDups : (l : List String) → l.eraseDups.Nodup
  | [] => by simp
  | x :: xs => by
    rw [List.eraseDups_cons, List.nodup_cons, List.mem_eraseDups]
    exact ⟨by simp, nodup_eraseDups (xs.filter fun y => !y == x)⟩
termination_by l => l.length
decreasing_by exact Nat.lt_succ_of_le (List.length_filter_le _ _)

section Stable

variable {α : Type} {le : α → α → Bool}

theorem filter_mergeSort (htrans : ∀ a b c, le a b = true → le b c = true → le a c = true)
    (htotal : ∀ a b, (le a b || le b a) = true) (l : List α) {p : α → Bool}
    (hp : ∀ a b, p a = true → p b = true → le a b = true) :
    (l.mergeSort le).filter p = l.filter p := by
  have hpairs : (l.filter p).Pairwise fun a b => le a b = true := by
    apply List.pairwise_of_forall_mem_list
    intro a ha b hb
    exact hp a b (List.mem_filter.1 ha).2 (List.mem_filter.1 hb).2
  have hs := (List.sublist_mergeSort htrans htotal hpairs List.filter_sublist).filter p
  rw [List.filter_filter] at hs
  simp only [Bool.and_self] at hs
  exact (hs.eq_of_length ((List.mergeSort_perm l le).filter p).length_eq.symm).symm

theorem mergeSort_eq_of_perm (htrans : ∀ a b c, le a b = true → le b c = true → le a c = true)
    (htotal : ∀ a b, (le a b || le b a) = true) {l l' : List α} (h : l.Perm l')
    (hle : ∀ a ∈ l, ∀ b ∈ l, le a b = true → le b a = true → a = b) :
    l.mergeSort le = l'.mergeSort le := by
  have hperm : (l.mergeSort le).Perm (l'.mergeSort le) :=
    ((List.mergeSort_perm l le).trans h).trans (List.mergeSort_perm l' le).symm
  refine hperm.eq_of_pairwise (fun a b ha hb hab hba => ?_)
    (List.pairwise_mergeSort htrans htotal l) (List.pairwise_mergeSort htrans htotal l')
  exact hle a (List.mem_mergeSort.1 ha) b (h.mem_iff.2 (List.mem_mergeSort.1 hb)) hab hba

end Stable

section Sorting

variable {α : Type} (key : α → String)

def sortedBy (l : List α) : List α := l.mergeSort fun a b => !before (key b) (key a)

theorem perm_sortedBy (l : List α) : (sortedBy key l).Perm l := List.mergeSort_perm l _

theorem order_trans (a b c : α) (h : (!before (key b) (key a)) = true)
    (h' : (!before (key c) (key b)) = true) : (!before (key c) (key a)) = true := by
  rw [Bool.not_eq_true'] at h h' ⊢
  exact not_before_trans h h'

theorem order_total (a b : α) :
    (!before (key b) (key a) || !before (key a) (key b)) = true := by
  rcases not_before_or (key a) (key b) with h | h <;> simp [h]

theorem pairwise_sortedBy (l : List α) :
    (sortedBy key l).Pairwise fun a b => before (key b) (key a) = false := by
  have h := List.pairwise_mergeSort (order_trans key) (order_total key) l
  exact h.imp fun h => by simpa using h

theorem filter_sortedBy (l : List α) (k : String) :
    (sortedBy key l).filter (fun a => key a == k) = l.filter fun a => key a == k := by
  apply filter_mergeSort (order_trans key) (order_total key)
  intro a b ha hb
  rw [eq_of_beq ha, eq_of_beq hb, before_irrefl]
  rfl

theorem sortedBy_eq_self {l : List α} (h : l.Pairwise fun a b => before (key b) (key a) = false) :
    sortedBy key l = l := by
  apply List.mergeSort_of_pairwise
  exact h.imp fun hb => by simpa using hb

theorem mem_iff_of_filter_eq {l l' : List α}
    (hf : ∀ k, l.filter (fun a => key a == k) = l'.filter fun a => key a == k) (a : α) :
    a ∈ l ↔ a ∈ l' := by
  have ha := congrArg (a ∈ ·) (hf (key a))
  simpa using ha

theorem eq_of_filter_eq {l l' : List α}
    (h : l.Pairwise fun a b => before (key b) (key a) = false)
    (h' : l'.Pairwise fun a b => before (key b) (key a) = false)
    (hf : ∀ k, l.filter (fun a => key a == k) = l'.filter fun a => key a == k) : l = l' := by
  induction l generalizing l' with
  | nil =>
    cases l' with
    | nil => rfl
    | cons b u => simpa using hf (key b)
  | cons a t ih =>
    have hmem := mem_iff_of_filter_eq key hf
    cases l' with
    | nil => exact absurd ((hmem a).1 (by simp)) (by simp)
    | cons b u =>
      obtain ⟨ha, ht⟩ := List.pairwise_cons.1 h
      obtain ⟨hb, hu⟩ := List.pairwise_cons.1 h'
      have hkey : key a = key b := by
        rcases List.mem_cons.1 ((hmem a).1 (by simp)) with rfl | hau
        · rfl
        rcases List.mem_cons.1 ((hmem b).2 (by simp)) with rfl | hbt
        · rfl
        · exact eq_of_not_before (hb a hau) (ha b hbt)
      have hhead := hf (key a)
      rw [List.filter_cons_of_pos (by simp), List.filter_cons_of_pos (by simp [hkey])] at hhead
      obtain ⟨rfl, hrest⟩ := List.cons.inj hhead
      have htail : ∀ k, t.filter (fun a => key a == k) = u.filter fun a => key a == k := by
        intro k
        by_cases hk : key a = k
        · exact hk ▸ hrest
        · simpa [hk] using hf k
      rw [ih ht hu htail]

theorem sortedBy_eq {l l' : List α} (h : l'.Pairwise fun a b => before (key b) (key a) = false)
    (hf : ∀ k, l'.filter (fun a => key a == k) = l.filter fun a => key a == k) :
    sortedBy key l = l' :=
  eq_of_filter_eq key (pairwise_sortedBy key l) h fun k =>
    (filter_sortedBy key l k).trans (hf k).symm

theorem sortedBy_eq_of_perm {l l' : List α} (h : l.Perm l')
    (hk : ∀ a ∈ l, ∀ b ∈ l, key a = key b → a = b) : sortedBy key l = sortedBy key l' := by
  refine mergeSort_eq_of_perm (order_trans key) (order_total key) h fun a ha b hb hab hba => ?_
  rw [Bool.not_eq_true'] at hab hba
  exact hk a ha b hb (eq_of_not_before hba hab)

end Sorting

end Understudy.Text
