import Understudy.Text.Lines

/-!
# Lines and their endings

A text is its lines in turn, each with a line feed after it, or a carriage return and a
line feed, which the last line may lack. `Ended` says so without taking a text apart, and
`lines_eq_iff` that a text has one list of lines in this sense, the one that is read off it.
So two texts with the same lines are the same but for the endings
(`lines_eq_lines_iff`).
-/

set_option autoImplicit false

namespace Understudy.Text

section Pieces

variable {cs ds : List Char}

theorem pieces_of_not_mem (h : '\n' ∉ cs) (hne : cs ≠ []) : pieces cs = [cs] := by
  induction cs with
  | nil => exact absurd rfl hne
  | cons c cs ih =>
    obtain ⟨hc, hcs⟩ : '\n' ≠ c ∧ '\n' ∉ cs := by simpa using h
    rw [pieces, if_neg (Ne.symm hc)]
    by_cases hrest : cs = []
    · simp [hrest, pieces]
    · rw [ih hcs hrest]

theorem pieces_append_feed (h : '\n' ∉ cs) (ds : List Char) :
    pieces (cs ++ '\n' :: ds) = (cs ++ ['\n']) :: pieces ds := by
  induction cs with
  | nil => rw [List.nil_append, pieces, if_pos rfl, List.nil_append]
  | cons c cs ih =>
    obtain ⟨hc, hcs⟩ : '\n' ≠ c ∧ '\n' ∉ cs := by simpa using h
    rw [List.cons_append, pieces, if_neg (Ne.symm hc), ih hcs, List.cons_append]

theorem dropEnding_of_not_mem (h : '\n' ∉ cs) : dropEnding cs = cs := by
  have hr : '\n' ∉ cs.reverse := by simpa using h
  unfold dropEnding
  split
  · rename_i hcs
    simp [hcs] at hr
  · rename_i hcs
    simp [hcs] at hr
  · rfl

theorem dropEnding_feed (h : cs.getLast? ≠ some '\r') : dropEnding (cs ++ ['\n']) = cs := by
  have hlast : cs.reverse.head? ≠ some '\r' := by rwa [List.head?_reverse]
  have hr : (cs ++ ['\n']).reverse = '\n' :: cs.reverse := by simp
  unfold dropEnding
  rw [hr]
  split
  · rename_i rest hcs
    have hcs : cs.reverse = '\r' :: rest := (List.cons.inj hcs).2
    exact absurd (hcs ▸ rfl) hlast
  · rename_i hcs
    rw [← (List.cons.inj hcs).2, List.reverse_reverse]
  · rename_i hcs
    exact absurd rfl (hcs cs.reverse)

theorem dropEnding_returnFeed (cs : List Char) : dropEnding (cs ++ ['\r', '\n']) = cs := by
  simp [dropEnding]

end Pieces

/-- The text is the lines in turn, each with its ending. -/
inductive Ended : List String → String → Prop
  | empty : Ended [] ""
  | unended {line : String} : line ≠ "" → '\n' ∉ line.toList → Ended [line] line
  | feed {line rest : String} {more : List String} : '\n' ∉ line.toList →
      line.toList.getLast? ≠ some '\r' → Ended more rest →
      Ended (line :: more) (line ++ "\n" ++ rest)
  | returnFeed {line rest : String} {more : List String} : '\n' ∉ line.toList →
      Ended more rest → Ended (line :: more) (line ++ "\r\n" ++ rest)

section Texts

variable {s t line : String} {ls : List String}

theorem lines_unended (hne : line ≠ "") (h : '\n' ∉ line.toList) : lines line = [line] := by
  have hcs : line.toList ≠ [] := by simpa using hne
  rw [lines, pieces_of_not_mem h hcs, List.map_singleton, dropEnding_of_not_mem h,
    String.ofList_toList]

theorem lines_feed (h : '\n' ∉ line.toList) (hr : line.toList.getLast? ≠ some '\r')
    (rest : String) : lines (line ++ "\n" ++ rest) = line :: lines rest := by
  have hs : (line ++ "\n" ++ rest).toList = line.toList ++ '\n' :: rest.toList := by simp
  rw [lines, hs, pieces_append_feed h, List.map_cons, dropEnding_feed hr, String.ofList_toList,
    lines]

theorem lines_returnFeed (h : '\n' ∉ line.toList) (rest : String) :
    lines (line ++ "\r\n" ++ rest) = line :: lines rest := by
  have hs : (line ++ "\r\n" ++ rest).toList = (line.toList ++ ['\r']) ++ '\n' :: rest.toList := by
    simp
  have hr : '\n' ∉ line.toList ++ ['\r'] := by simp [h]
  rw [lines, hs, pieces_append_feed hr, List.map_cons, List.append_assoc, List.singleton_append,
    dropEnding_returnFeed, String.ofList_toList, lines]

theorem lines_of_ended (h : Ended ls s) : lines s = ls := by
  induction h with
  | empty => rfl
  | unended hne hl => exact lines_unended hne hl
  | feed hl hr _ ih => rw [lines_feed hl hr, ih]
  | returnFeed hl _ ih => rw [lines_returnFeed hl, ih]

theorem exists_line (h : '\n' ∈ s.toList) : ∃ line rest : String, '\n' ∉ line.toList ∧
    rest.length < s.length ∧ ((line.toList.getLast? ≠ some '\r' ∧ s = line ++ "\n" ++ rest) ∨
      s = line ++ "\r\n" ++ rest) := by
  obtain ⟨cs, ds, hs, hcs⟩ := List.eq_append_cons_of_mem h
  have hlength : (String.ofList ds).length < s.length := by
    rw [String.length_ofList, ← String.length_toList, hs, List.length_append, List.length_cons]
    omega
  by_cases hr : cs.getLast? = some '\r'
  · obtain ⟨front, rfl⟩ := List.getLast?_eq_some_iff.1 hr
    have hfront : '\n' ∉ front := fun hm => hcs (List.mem_append_left _ hm)
    refine ⟨String.ofList front, String.ofList ds, by simpa using hfront, hlength, .inr ?_⟩
    apply String.toList_inj.1
    simp [hs]
  · refine ⟨String.ofList cs, String.ofList ds, by simpa using hcs, hlength,
      .inl ⟨by simpa using hr, ?_⟩⟩
    apply String.toList_inj.1
    simp [hs]

theorem ended_lines (s : String) : Ended (lines s) s := by
  induction hn : s.length using Nat.strongRecOn generalizing s with
  | ind n ih =>
    by_cases hs : '\n' ∈ s.toList
    · obtain ⟨line, rest, hl, hlt, ⟨hr, rfl⟩ | rfl⟩ := exists_line hs
      · rw [lines_feed hl hr]
        exact .feed hl hr (ih _ (hn ▸ hlt) rest rfl)
      · rw [lines_returnFeed hl]
        exact .returnFeed hl (ih _ (hn ▸ hlt) rest rfl)
    · by_cases hne : s = ""
      · rw [hne]
        exact .empty
      · rw [lines_unended hne hs]
        exact .unended hne hs

theorem lines_eq_iff : lines s = ls ↔ Ended ls s :=
  ⟨fun h => h ▸ ended_lines s, lines_of_ended⟩

theorem lines_eq_lines_iff : lines s = lines t ↔ ∃ ls, Ended ls s ∧ Ended ls t := by
  constructor
  · intro h
    exact ⟨lines s, ended_lines s, lines_eq_iff.1 h.symm⟩
  · rintro ⟨ls, hs, ht⟩
    rw [lines_of_ended hs, lines_of_ended ht]

end Texts

end Understudy.Text
