import Understudy.Content.Basic

/-!
# Fragments of a content

A content is written out as a list of fragments, none of them empty: the texts of
its leaves with the separators and footers where they belong. Put together they
are the text, which for a group is the texts of its children with the separator
between them and the footer at the end (`text_group`). `walk` shows the fragments
one by one to a visitor that keeps a state and may stop; it goes down the tree
and never makes the list, and does what the visitor does on the list (`walk_eq`).
-/

set_option autoImplicit false

namespace Understudy.Content

def shown (text : String) : List String := if text = "" then [] else [text]

mutual

def fragments : Content → List String
  | .leaf text => shown text
  | .group children separator footer =>
    fragmentsBetween (shown (separator.getD "")) children ++ shown (footer.getD "")

def fragmentsBetween (separator : List String) : List Content → List String
  | [] => []
  | [c] => c.fragments
  | c :: d :: cs => c.fragments ++ separator ++ fragmentsBetween separator (d :: cs)

end

def text (c : Content) : String := String.join c.fragments

def totalLength : List String → Nat
  | [] => 0
  | t :: ts => t.utf8ByteSize + totalLength ts

def length (c : Content) : Nat := totalLength c.fragments

theorem join_shown (text : String) : String.join (shown text) = text := by
  by_cases h : text = "" <;> simp [shown, h]

@[simp] theorem text_leaf (text : String) : (leaf text).text = text := by
  rw [Content.text, fragments, join_shown]

theorem join_fragmentsBetween (separator : String) (cs : List Content) :
    String.join (fragmentsBetween (shown separator) cs) = separator.intercalate (cs.map text) := by
  induction cs with
  | nil => simp [fragmentsBetween]
  | cons c cs ih =>
    cases cs with
    | nil => simp [fragmentsBetween, text]
    | cons d ds =>
      rw [fragmentsBetween, String.join_append, String.join_append, ih, join_shown]
      simp [text]

theorem text_group (children : List Content) (separator footer : Option String) :
    (group children separator footer).text =
      (separator.getD "").intercalate (children.map text) ++ footer.getD "" := by
  rw [Content.text, fragments, String.join_append, join_fragmentsBetween, join_shown]

theorem utf8ByteSize_join (texts : List String) :
    (String.join texts).utf8ByteSize = totalLength texts := by
  induction texts with
  | nil => rfl
  | cons t ts ih => simp [totalLength, ih]

theorem length_eq (c : Content) : c.length = c.text.utf8ByteSize := by
  rw [length, text, utf8ByteSize_join]

theorem ne_empty_of_mem_shown {text t : String} (h : t ∈ shown text) : t ≠ "" := by
  intro ht
  by_cases he : text = "" <;> simp_all [shown]

mutual

theorem ne_empty_of_mem_fragments : (c : Content) → ∀ t ∈ c.fragments, t ≠ ""
  | .leaf _, _, h => ne_empty_of_mem_shown h
  | .group children separator _, t, h => by
    rw [fragments, List.mem_append] at h
    rcases h with h | h
    · exact ne_empty_of_mem_fragmentsBetween (separator.getD "") children t h
    · exact ne_empty_of_mem_shown h

theorem ne_empty_of_mem_fragmentsBetween (separator : String) :
    (cs : List Content) → ∀ t ∈ fragmentsBetween (shown separator) cs, t ≠ ""
  | [], t, h => by simp [fragmentsBetween] at h
  | [c], t, h => ne_empty_of_mem_fragments c t h
  | c :: d :: cs, t, h => by
    rw [fragmentsBetween, List.mem_append, List.mem_append] at h
    rcases h with (h | h) | h
    · exact ne_empty_of_mem_fragments c t h
    · exact ne_empty_of_mem_shown h
    · exact ne_empty_of_mem_fragmentsBetween separator (d :: cs) t h

end

abbrev Visitor (ε σ : Type) := String → EStateM ε σ Unit

section Walk

variable {ε σ : Type} (visit : Visitor ε σ)

def visitText (text : String) : EStateM ε σ Unit :=
  if text = "" then pure () else visit text

mutual

def walk : Content → EStateM ε σ Unit
  | .leaf text => visitText visit text
  | .group children separator footer => do
    walkChildren (separator.getD "") true children
    visitText visit (footer.getD "")

/-- The separator comes before every child but the first. -/
def walkChildren (separator : String) : Bool → List Content → EStateM ε σ Unit
  | _, [] => pure ()
  | first, c :: cs => do
    if first then pure () else visitText visit separator
    walk c
    walkChildren separator false cs

end

def visitAll : List String → EStateM ε σ Unit
  | [] => pure ()
  | text :: rest => do
    visit text
    visitAll rest

theorem visitAll_append (ts us : List String) :
    visitAll visit (ts ++ us) = (do visitAll visit ts; visitAll visit us) := by
  induction ts with
  | nil => simp [visitAll]
  | cons t ts ih => simp [visitAll, ih]

theorem visitText_eq (text : String) : visitText visit text = visitAll visit (shown text) := by
  by_cases h : text = "" <;> simp [visitText, shown, visitAll, h]

mutual

/-- Walking a content is visiting its fragments one after the other. -/
theorem walk_eq : (c : Content) → walk visit c = visitAll visit c.fragments
  | .leaf text => visitText_eq visit text
  | .group children separator footer => by
    rw [walk, fragments, walkChildren_first, visitText_eq, visitAll_append]

theorem walkChildren_first (separator : String) : (cs : List Content) →
    walkChildren visit separator true cs = visitAll visit (fragmentsBetween (shown separator) cs)
  | [] => rfl
  | c :: cs => by
    rw [walkChildren, walk_eq c, ← visit_then_rest separator c cs]
    simp

theorem visit_then_rest (separator : String) (c : Content) : (cs : List Content) →
    (do visitAll visit c.fragments; walkChildren visit separator false cs) =
      visitAll visit (fragmentsBetween (shown separator) (c :: cs))
  | [] => by simp [walkChildren, fragmentsBetween]
  | d :: ds => by
    rw [walkChildren, walk_eq d, visit_then_rest separator d ds, fragmentsBetween,
      visitAll_append, visitAll_append, visitText_eq]
    simp

end

end Walk

/-- The visitor that notes what it sees and fails on fragment number `limit + 1`. -/
def recordUpTo (limit : Nat) : Visitor Nat (Array String) := fun text => do
  modify (·.push text)
  let seen ← get
  if limit < seen.size then throw seen.size

end Understudy.Content
