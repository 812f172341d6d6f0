/-!
# Lines of a text

A line ends with a line feed, or with a carriage return and a line feed; the
last line may have no ending. A carriage return elsewhere belongs to its line.
`pieces` keeps the endings and so loses nothing (`flatten_pieces`), `lines` drops
them.
-/

set_option autoImplicit false

namespace Understudy.Text

def pieces : List Char → List (List Char)
  | [] => []
  | c :: cs =>
    if c = '\n' then [c] :: pieces cs
    else match pieces cs with
      | [] => [[c]]
      | p :: ps => (c :: p) :: ps

theorem flatten_pieces (cs : List Char) : (pieces cs).flatten = cs := by
  induction cs with
  | nil => rfl
  | cons c cs ih =>
    simp only [pieces]
    split
    · simp [ih]
    · split
      · rename_i h
        rw [h] at ih
        simpa using ih
      · rename_i p ps h
        rw [h] at ih
        simpa using ih

def dropEnding (line : List Char) : List Char :=
  match line.reverse with
  | '\n' :: '\r' :: rest => rest.reverse
  | '\n' :: rest => rest.reverse
  | _ => line

def lines (s : String) : List String :=
  (pieces s.toList).map fun p => String.ofList (dropEnding p)

example : lines "a\r\n\nb\r" = ["a", "", "b\r"] := by decide

end Understudy.Text
