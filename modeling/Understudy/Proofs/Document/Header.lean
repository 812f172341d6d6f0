import Understudy.Proofs.Document.Imports

/-!
# A header after any steps

A header is set up in steps: import lines add up, and of the version, the linter switch
and the condition the last setting holds. So the header depends on the steps of each kind
alone, in whatever order the kinds are mixed (`steps_eq`). Its text is the layout of what
was set (`header_of_steps`), and it tells which condition was set (`Layout.header_inj`).
-/

set_option autoImplicit false

namespace Understudy

namespace Layout

variable {banner : String} {disableLint : Bool} {condition condition' : Option String}
  {imports : List String}

theorem conditionLine_inj (h : conditionLine condition = conditionLine condition') :
    condition = condition' := by
  cases condition with
  | none =>
    cases condition' with
    | none => rfl
    | some e => simp [conditionLine, -String.reduceAppend] at h
  | some e =>
    cases condition' with
    | none => simp [conditionLine, -String.reduceAppend] at h
    | some e' => simpa [conditionLine, String.append_assoc, -String.reduceAppend] using h

theorem header_inj (h : header banner disableLint condition imports =
    header banner disableLint condition' imports) : condition = condition' := by
  apply conditionLine_inj
  simpa only [header, String.append_assoc, String.append_right_inj, String.append_left_inj] using h

theorem header_nil (banner : String) (disableLint : Bool) (condition : Option String) :
    header banner disableLint condition [] =
      banner ++ lintLine disableLint ++ conditionLine condition ++ "\n" ++ "\n" := by
  simp [header, -String.reduceAppend]

end Layout

namespace Header

variable {fileName moduleName : String} {list other : List Step}

section Kinds

def Step.version? : Step → Option String
  | .version text => some text
  | _ => none

def Step.disableLint? : Step → Option Bool
  | .disableLint flag => some flag
  | _ => none

def Step.condition? : Step → Option (Option String)
  | .condition expression => some expression
  | _ => none

def Step.lines : Step → List String
  | .imports lines => lines
  | _ => []

def linesOf (list : List Step) : List String := list.flatMap Step.lines

def versionsOf (list : List Step) : List String := list.filterMap Step.version?

def disableLintsOf (list : List Step) : List Bool := list.filterMap Step.disableLint?

def conditionsOf (list : List Step) : List (Option String) := list.filterMap Step.condition?

end Kinds

/-- Every field is settled by the steps of one kind. -/
theorem steps_eq (h : Header) (list : List Step) :
    h.steps list = { h with
      version := (versionsOf list).getLast?.getD h.version
      imports := h.imports.addAll (linesOf list)
      disableLint := (disableLintsOf list).getLast?.getD h.disableLint
      condition := (conditionsOf list).getLast?.getD h.condition } := by
  induction list generalizing h with
  | nil => rfl
  | cons s list ih =>
    rw [steps, List.foldl_cons, ← steps, ih]
    cases s <;>
      simp [step, versionsOf, linesOf, disableLintsOf, conditionsOf, Step.version?, Step.lines,
        Step.disableLint?, Step.condition?, List.getLast?_cons, Imports.addAll_append]

/-- Steps come to the same header when those of each kind that overrides are the same in
their order, and those that add import lines add the same ones. -/
theorem steps_congr (h : Header) (hv : versionsOf other = versionsOf list)
    (hd : disableLintsOf other = disableLintsOf list)
    (hc : conditionsOf other = conditionsOf list)
    (hl : ∀ line, line ∈ linesOf other ↔ line ∈ linesOf list) :
    h.steps other = h.steps list := by
  have himports : h.imports.addAll (linesOf other) = h.imports.addAll (linesOf list) := by
    apply Imports.eq_of_mem_iff
    intro line
    simp only [Imports.mem_addAll, hl]
  rw [steps_eq, steps_eq, hv, hd, hc, himports]

theorem steps_new (fileName moduleName : String) (list : List Step) :
    (new fileName moduleName).steps list = {
      fileName
      moduleName
      version := (versionsOf list).getLast?.getD "0.3.0"
      imports := .ofList (linesOf list)
      disableLint := (disableLintsOf list).getLast?.getD false
      condition := (conditionsOf list).getLast?.getD none } :=
  steps_eq (new fileName moduleName) list

theorem text_steps (fileName moduleName : String) (list : List Step) :
    ((new fileName moduleName).steps list).toContent.text =
      Layout.header (Layout.banner fileName moduleName ((versionsOf list).getLast?.getD "0.3.0"))
        ((disableLintsOf list).getLast?.getD false) ((conditionsOf list).getLast?.getD none)
        (Layout.importLines (linesOf list)) := by
  rw [steps_new, text_toContent]
  · rw [Imports.toList_ofList]
  · rw [Imports.toList_ofList]
    exact Imports.not_mem_importLines

/-- A new header after any steps has the layout of the last version, linter switch and
condition that were set and of the import lines of all steps. Steps that are mixed or
grouped in another way give the same content as long as those of each kind that overrides
keep their order. The guard is the one condition that the text can be read to show, and
without import lines the text still ends in a blank line and the end of the next. -/
theorem header_of_steps (fileName moduleName : String) (list : List Step) :
    let h := (new fileName moduleName).steps list
    let banner := Layout.banner fileName moduleName ((versionsOf list).getLast?.getD "0.3.0")
    let disableLint := (disableLintsOf list).getLast?.getD false
    let condition := (conditionsOf list).getLast?.getD none
    let imports := Imports.ofList (linesOf list)
    h.toContent.text = Layout.header banner disableLint condition imports.toList ∧
      (∀ other, versionsOf other = versionsOf list → disableLintsOf other = disableLintsOf list →
        conditionsOf other = conditionsOf list →
        (∀ line, line ∈ linesOf other ↔ line ∈ linesOf list) →
        ((new fileName moduleName).steps other).toContent = h.toContent) ∧
      h.guard? = condition ∧
      (∀ shown, h.toContent.text = Layout.header banner disableLint shown imports.toList ↔
        h.guard? = shown) ∧
      ((∀ line ∈ linesOf list, Text.isAllBlank line = true) →
        h.toContent.text = banner ++ Layout.lintLine disableLint ++
          Layout.conditionLine condition ++ "\n" ++ "\n") := by
  intro h banner disableLint condition imports
  have hlines : imports.toList = Layout.importLines (linesOf list) := Imports.toList_ofList _
  have htext : h.toContent.text = Layout.header banner disableLint condition imports.toList := by
    rw [hlines]
    exact text_steps fileName moduleName list
  have hguard : h.guard? = condition := congrArg Header.condition (steps_new fileName moduleName list)
  refine ⟨htext, ?_, hguard, fun shown => ?_, fun hblank => ?_⟩
  · intro other hv hd hc hl
    rw [steps_congr _ hv hd hc hl]
  · rw [htext, hguard]
    exact ⟨Layout.header_inj, fun he => by rw [he]⟩
  · rw [htext, hlines, Imports.importLines_eq_nil_iff.2 hblank, Layout.header_nil]

/-- A condition that is set, taken back and set again, versions and import lines in two
orders, and a header whose only import line is blank. -/
theorem mixed_steps_agree :
    let list : List Step := [.condition (some "OLD"), .imports ["import B", " import A "],
      .version "9", .condition none, .disableLint true, .imports ["import A"],
      .condition (some "DEBUG"), .version "1.2.3"]
    let other : List Step := [.imports ["import A"], .version "9", .version "1.2.3",
      .condition (some "OLD"), .disableLint true, .condition none, .imports [],
      .condition (some "DEBUG"), .imports [" import A ", "import B"]]
    let bare : List Step := [.condition (some "OLD"), .imports [" \t"], .condition none]
    let h := (new "Shop.swift" "Shop").steps list
    versionsOf other = versionsOf list ∧ disableLintsOf other = disableLintsOf list ∧
      conditionsOf other = conditionsOf list ∧
      (∀ line, line ∈ linesOf other ↔ line ∈ linesOf list) ∧
      ((new "Shop.swift" "Shop").steps other).toContent = h.toContent ∧
      h.guard? = some "DEBUG" ∧
      h.toContent.text = "\n".intercalate ["//", "//  Shop.swift", "//  Shop", "//",
        "//  Generated by mockgen v1.2.3.", "//  DO NOT EDIT", "//", "", "// swiftlint:disable all",
        "", "#if DEBUG", "", "import A", "import B", ""] ∧
      (∀ line ∈ linesOf bare, Text.isAllBlank line = true) ∧
      ((new "Shop.swift" "Shop").steps bare).toContent.text = "\n".intercalate ["//",
        "//  Shop.swift", "//  Shop", "//", "//  Generated by mockgen v0.3.0.",
        "//  DO NOT EDIT", "//", "", "", ""] := by
  intro list other bare h
  have hlines : ∀ line, line ∈ linesOf other ↔ line ∈ linesOf list := by
    intro line
    have ho : linesOf other = ["import A", " import A ", "import B"] := rfl
    have hl : linesOf list = ["import B", " import A ", "import A"] := rfl
    rw [ho, hl]
    simp only [List.mem_cons, List.not_mem_nil, or_false]
    exact or_rotate.trans or_left_comm
  have himports : (Imports.ofList (linesOf list)).toList = ["import A", "import B"] := by
    decide
  have hblank : ∀ line ∈ linesOf bare, Text.isAllBlank line = true := by decide
  obtain ⟨htext, hequal, hguard, -⟩ := header_of_steps "Shop.swift" "Shop" list
  obtain ⟨-, -, -, -, hbare⟩ := header_of_steps "Shop.swift" "Shop" bare
  refine ⟨rfl, rfl, rfl, hlines, hequal other rfl rfl rfl hlines, hguard, ?_, hblank, ?_⟩
  · rw [htext, himports]
    decide
  · rw [hbare hblank]
    decide

end Header

end Understudy
