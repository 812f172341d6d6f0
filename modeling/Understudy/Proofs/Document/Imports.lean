import Understudy.Proofs.Document.Composition
import Understudy.Proofs.Text.Trimming

/-!
# Import lines after any additions

Lines are added one by one or in batches. What is kept depends only on the set of lines
that the added texts come to once they are trimmed (`steps_eq_iff`): not on their order,
on how often or in which batches they came, or on the blanks around them. So the lines
have one normal form, of which nothing is left out when it is shown (`lines_kept`).
-/

set_option autoImplicit false

namespace Understudy.Imports

inductive Step where
  | add (text : String)
  | addAll (texts : List String)

def step (i : Imports) : Step → Imports
  | .add text => i.add text
  | .addAll texts => i.addAll texts

def steps (i : Imports) (list : List Step) : Imports := list.foldl step i

def Step.texts : Step → List String
  | .add text => [text]
  | .addAll texts => texts

def textsOf (list : List Step) : List String := list.flatMap Step.texts

/-- Some step adds the line, with or without blanks around it, and it is not blank. -/
def Given (list : List Step) (line : String) : Prop :=
  line ≠ "" ∧ ∃ text ∈ textsOf list, Text.trim text = line

variable {i j : Imports} {line text before behind : String} {list other : List Step}

theorem addAll_append (i : Imports) (ts us : List String) :
    i.addAll (ts ++ us) = (i.addAll ts).addAll us := List.foldl_append

theorem step_eq (i : Imports) (s : Step) : i.step s = i.addAll s.texts := by
  cases s with
  | add text => rw [step, Step.texts, addAll, List.foldl_cons, List.foldl_nil]
  | addAll texts => rfl

theorem steps_eq_addAll (i : Imports) (list : List Step) :
    i.steps list = i.addAll (textsOf list) := by
  induction list generalizing i with
  | nil => rfl
  | cons s list ih =>
    rw [steps, List.foldl_cons, ← steps, ih, step_eq, ← addAll_append]
    rfl

theorem toList_steps (list : List Step) :
    (empty.steps list).toList = Layout.importLines (textsOf list) := by
  rw [steps_eq_addAll]
  exact toList_ofList (textsOf list)

theorem mem_steps : line ∈ (empty.steps list).toList ↔ Given list line := by
  rw [toList_steps]
  exact mem_importLines

theorem eq_of_mem_iff (h : ∀ line, line ∈ i.toList ↔ line ∈ j.toList) : i = j := by
  obtain ⟨⟨lines, hi⟩⟩ := i
  obtain ⟨⟨lines', hj⟩⟩ := j
  obtain rfl : lines = lines' := Text.eq_of_mem_iff hi hj h
  rfl

theorem steps_eq_iff :
    empty.steps other = empty.steps list ↔ ∀ line, Given other line ↔ Given list line := by
  constructor
  · intro h line
    rw [← mem_steps, ← mem_steps, h]
  · intro h
    apply eq_of_mem_iff
    intro line
    rw [mem_steps, mem_steps, h]

theorem add_of_mem (h : Text.trim text ∈ i.toList) : i.add text = i := by
  apply eq_of_mem_iff
  intro line
  rw [mem_add]
  refine ⟨fun hm => hm.elim id ?_, .inl⟩
  rintro ⟨-, rfl⟩
  exact h

theorem trim_of_given (h : Given list line) : Text.trim line = line := by
  obtain ⟨-, text, -, rfl⟩ := h
  exact Text.trim_trim text

theorem add_again (h : line ∈ (empty.steps list).toList) (hb : Text.isAllBlank before = true)
    (ha : Text.isAllBlank behind = true) :
    (empty.steps list).add (before ++ line ++ behind) = empty.steps list := by
  apply add_of_mem
  rw [Text.trim_padded hb ha, trim_of_given (mem_steps.1 h)]
  exact h

theorem isEmpty_iff : i.isEmpty = true ↔ i.toList = [] := List.isEmpty_iff

theorem importLines_eq_nil_iff {texts : List String} :
    Layout.importLines texts = [] ↔ ∀ text ∈ texts, Text.isAllBlank text = true := by
  rw [List.eq_nil_iff_forall_not_mem]
  constructor
  · intro h text ht
    rw [← Text.trim_eq_empty_iff]
    by_contra hne
    exact h _ (mem_importLines.2 ⟨hne, text, ht, rfl⟩)
  · intro h line hl
    obtain ⟨hne, text, ht, rfl⟩ := mem_importLines.1 hl
    exact hne (Text.trim_eq_empty_iff.2 (h text ht))

theorem empty_not_mem_steps : "" ∉ (empty.steps list).toList := fun h => (mem_steps.1 h).1 rfl

theorem toContent_of_not_mem (h : "" ∉ i.toList) :
    i.toContent = .group (i.toList.map .leaf) (some "\n") none := by
  have hkept : Group.kept (i.toList.map .leaf) = i.toList.map .leaf := by
    apply List.filter_eq_self.2
    intro c hc
    obtain ⟨line, hl, rfl⟩ := List.mem_map.1 hc
    have hne : line ≠ "" := fun he => h (he ▸ hl)
    simpa [Content.isEmpty] using hne
  rw [toContent, Group.ofList, hkept]
  rfl

/-- Whatever is added to no lines at all, in whatever order and batches: what is kept are
the added texts without the blanks around them, those that are not blank, each once and
ascending by their bytes. Additions leave the same lines exactly when they come to the
same set of them, and a line that is kept is not kept twice. It is shown as one leaf for
each line, with a line feed between any two. -/
theorem lines_kept (list : List Step) :
    let i := empty.steps list
    (∀ line, line ∈ i.toList ↔ Given list line) ∧
      Text.Ascends i.toList ∧ i.toList.Nodup ∧
      (∀ other, (∀ line, Given other line ↔ Given list line) →
        empty.steps other = i ∧ (empty.steps other).toContent.text = i.toContent.text) ∧
      (∀ other, empty.steps other = i → ∀ line, Given other line ↔ Given list line) ∧
      (∀ line ∈ i.toList, ∀ before behind, Text.isAllBlank before = true →
        Text.isAllBlank behind = true → i.add (before ++ line ++ behind) = i) ∧
      i.size = i.toList.length ∧ (i.isEmpty = true ↔ i.toList = []) ∧
      (i.toList = [] ↔ ∀ text ∈ textsOf list, Text.isAllBlank text = true) ∧
      i.toContent = .group (i.toList.map .leaf) (some "\n") none ∧
      i.toContent.text = "\n".intercalate i.toList := by
  intro i
  have hascends : Text.Ascends i.toList := i.lines.ascends
  have hnodup : i.toList.Nodup := Text.nodup_of_ascends hascends
  have hblank : i.toList = [] ↔ ∀ text ∈ textsOf list, Text.isAllBlank text = true := by
    rw [toList_steps, importLines_eq_nil_iff]
  refine ⟨fun line => mem_steps, hascends, hnodup, ?_, fun other h => steps_eq_iff.1 h, ?_, rfl,
    isEmpty_iff, hblank, toContent_of_not_mem empty_not_mem_steps,
    text_toContent empty_not_mem_steps⟩
  · intro other h
    have heq : empty.steps other = i := steps_eq_iff.2 h
    exact ⟨heq, by rw [heq]⟩
  · intro line hl before behind hb ha
    exact add_again hl hb ha

/-- Two ways to the same lines, one of them given with an ideographic space around it, and
a blank text that adds none. -/
theorem batches_come_to_same_lines :
    let list : List Step := [.addAll ["import UIKit", "\u3000import Ärger\t", " \n"],
      .add "@testable import App", .add "import UIKit"]
    let other : List Step := [.add "import Ärger", .addAll [],
      .addAll ["\r\n@testable import App", "import UIKit "]]
    let i := empty.steps list
    i.toList = ["@testable import App", "import UIKit", "import Ärger"] ∧
      (∀ line, Given other line ↔ Given list line) ∧ empty.steps other = i ∧
      "import UIKit" ∈ i.toList ∧ Text.isAllBlank "\u2028" = true ∧
      i.add ("\u2028" ++ "import UIKit" ++ "\u2028") = i ∧
      i.toContent.text = "@testable import App\nimport UIKit\nimport Ärger" := by
  intro list other i
  have hlines : i.toList = ["@testable import App", "import UIKit", "import Ärger"] := by
    decide +kernel
  have hother : (empty.steps other).toList = i.toList := by decide +kernel
  have hsame : ∀ line, Given other line ↔ Given list line := by
    intro line
    rw [← mem_steps, ← mem_steps, hother]
  have hblank : Text.isAllBlank "\u2028" = true := by decide +kernel
  have hmem : "import UIKit" ∈ i.toList := by simp [hlines]
  obtain ⟨-, -, -, hequal, -, hagain, -, -, -, -, htext⟩ := lines_kept list
  refine ⟨hlines, hsame, (hequal other hsame).1, hmem, hblank, ?_, ?_⟩
  · exact hagain _ hmem _ _ hblank hblank
  · rw [htext, hlines]
    decide +kernel

end Understudy.Imports
