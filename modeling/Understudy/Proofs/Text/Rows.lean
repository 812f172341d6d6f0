import Understudy.Text.Split

/-!
# Rows of a text

The parts of a text between its line feeds. Lines with a line feed between any two
have the rows of each line in turn (`rows_intercalate`), and these are the lines
themselves exactly when no line holds a line feed (`flatMap_rows_eq_iff`).
-/

set_option autoImplicit false

namespace Understudy.Text

section Split

variable {sep : Char} {cs : List Char}

theorem split_eq_splitOn (sep : Char) (cs : List Char) : split sep cs = cs.splitOn sep := by
  induction cs with
  | nil => simp [split]
  | cons c cs ih =>
    rw [List.splitOn_cons_eq_if_modifyHead, split, ih]
    by_cases hc : c = sep
    · simp [hc]
    · cases hs : cs.splitOn sep with
      | nil => exact absurd hs (List.splitOn_ne_nil sep cs)
      | cons p ps => simp [hc]

theorem split_append (sep : Char) (cs ds : List Char) :
    split sep (cs ++ sep :: ds) = split sep cs ++ split sep ds := by
  simp only [split_eq_splitOn, List.splitOn_append_cons_self]

theorem split_modifyHead (h : sep ∉ cs) (ds : List Char) :
    split sep (cs ++ ds) = (split sep ds).modifyHead (cs ++ ·) := by
  induction cs with
  | nil => cases hd : split sep ds <;> simp [hd]
  | cons c cs ih =>
    obtain ⟨hc, hcs⟩ : sep ≠ c ∧ sep ∉ cs := by simpa using h
    rw [List.cons_append, split, if_neg (Ne.symm hc), ih hcs]
    cases hd : split sep ds with
    | nil => exact absurd hd (split_ne_nil sep ds)
    | cons p ps => rfl

theorem split_of_not_mem (h : sep ∉ cs) : split sep cs = [cs] := by
  simpa [split] using split_modifyHead h []

end Split

def rows (s : String) : List String := (split '\n' s.toList).map String.ofList

theorem length_rows (s : String) : (rows s).length = s.toList.count '\n' + 1 := by
  rw [rows, List.length_map, length_split]

theorem rows_of_not_mem {s : String} (h : '\n' ∉ s.toList) : rows s = [s] := by
  simp [rows, split_of_not_mem h]

theorem rows_append_newline (s t : String) : rows (s ++ "\n" ++ t) = rows s ++ rows t := by
  have hl : (s ++ "\n" ++ t).toList = s.toList ++ '\n' :: t.toList := by simp
  rw [rows, rows, rows, hl, split_append, List.map_append]

theorem rows_line {s : String} (h : '\n' ∉ s.toList) (t : String) :
    rows (s ++ "\n" ++ t) = s :: rows t := by
  rw [rows_append_newline, rows_of_not_mem h, List.singleton_append]

theorem count_between {before behind : String} (hbefore : '\n' ∉ before.toList)
    (hbehind : '\n' ∉ behind.toList) (s : String) :
    (before ++ s ++ behind).toList.count '\n' = s.toList.count '\n' := by
  rw [String.toList_append, String.toList_append, List.count_append, List.count_append,
    List.count_eq_zero_of_not_mem hbefore, List.count_eq_zero_of_not_mem hbehind, Nat.zero_add,
    Nat.add_zero]

theorem rows_modifyHead {s : String} (h : '\n' ∉ s.toList) (t : String) :
    rows (s ++ t) = (rows t).modifyHead (s ++ ·) := by
  rw [rows, rows, String.toList_append, split_modifyHead h]
  cases split '\n' t.toList <;> simp

theorem rows_intercalate {lines : List String} (h : lines ≠ []) :
    rows ("\n".intercalate lines) = lines.flatMap rows := by
  induction lines with
  | nil => exact absurd rfl h
  | cons line rest ih =>
    by_cases hrest : rest = []
    · simp [hrest]
    · rw [String.intercalate_cons_of_ne_nil hrest, rows_append_newline, ih hrest, List.flatMap_cons]

theorem length_flatMap_rows (lines : List String) : (lines.flatMap rows).length =
    lines.length + (lines.flatMap String.toList).count '\n' := by
  induction lines with
  | nil => rfl
  | cons line rest ih =>
    rw [List.flatMap_cons, List.length_append, ih, length_rows, List.length_cons, List.flatMap_cons,
      List.count_append]
    omega

theorem flatMap_rows_of_not_mem {lines : List String} (h : ∀ line ∈ lines, '\n' ∉ line.toList) :
    lines.flatMap rows = lines := by
  induction lines with
  | nil => rfl
  | cons line rest ih =>
    obtain ⟨hline, hrest⟩ := List.forall_mem_cons.1 h
    rw [List.flatMap_cons, rows_of_not_mem hline, ih hrest]
    rfl

theorem length_flatMap_rows_eq_iff {lines : List String} :
    (lines.flatMap rows).length = lines.length ↔ ∀ line ∈ lines, '\n' ∉ line.toList := by
  rw [length_flatMap_rows, Nat.add_eq_left, List.count_eq_zero]
  simp

theorem flatMap_rows_eq_iff {lines : List String} :
    lines.flatMap rows = lines ↔ ∀ line ∈ lines, '\n' ∉ line.toList :=
  ⟨fun h => length_flatMap_rows_eq_iff.1 (congrArg List.length h), flatMap_rows_of_not_mem⟩

end Understudy.Text
