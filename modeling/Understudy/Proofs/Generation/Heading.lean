import Understudy.Proofs.Generation.Preview
import Understudy.Proofs.Text.Rows

/-!
# The lines of a heading

A heading is the banner, the directives that were asked for, a blank line and the
lines of the imports. File name, module, condition and imports are written as they
stand, so there are no other lines exactly when none of them holds a line feed.
-/

set_option autoImplicit false

namespace Understudy

namespace Layout

variable {fileName moduleName version : String} {disableLint : Bool} {condition : Option String}
  {imports : List String}

def bannerLines (fileName moduleName version : String) : List String :=
  ["//",
    "//  " ++ fileName,
    "//  " ++ moduleName,
    "//",
    "//  Generated by mockgen v" ++ version ++ ".",
    "//  DO NOT EDIT",
    "//"]

def directiveLines (disableLint : Bool) (condition : Option String) : List String :=
  (if disableLint then ["", "// swiftlint:disable all"] else []) ++
    condition.elim [] fun expression => ["", "#if " ++ expression]

def headerLines (fileName moduleName version : String) (disableLint : Bool)
    (condition : Option String) (imports : List String) : List String :=
  bannerLines fileName moduleName version ++ directiveLines disableLint condition ++ [""] ++
    imports ++ [""]

theorem header_eq (h : imports ≠ []) :
    header (banner fileName moduleName version) disableLint condition imports =
      "\n".intercalate
        (headerLines fileName moduleName version disableLint condition imports) := by
  have hlint : "\n// swiftlint:disable all\n" = "\n" ++ ("// swiftlint:disable all" ++ "\n") := by
    decide
  have hcondition : "\n#if " = "\n" ++ "#if " := by decide
  cases disableLint <;> cases condition <;>
    simp [header, headerLines, banner, bannerLines, lintLine, conditionLine, directiveLines, hlint,
      hcondition, h, String.intercalate_cons_of_ne_nil, String.intercalate_append_of_ne_nil,
      String.append_assoc, -String.reduceAppend]

theorem newline_not_mem_headerLines :
    (∀ line ∈ headerLines fileName moduleName version disableLint condition imports,
        '\n' ∉ line.toList) ↔
      ∀ text ∈ fileName :: moduleName :: version :: (condition.toList ++ imports),
        '\n' ∉ text.toList := by
  cases disableLint <;> cases condition <;>
    simp [headerLines, bannerLines, directiveLines, or_imp, forall_and]

theorem bannerLines_marked :
    ∀ line ∈ bannerLines fileName moduleName version, ∃ rest, line = "//" ++ rest := by
  have htool : "//  Generated by mockgen v" = "//" ++ "  Generated by mockgen v" := by decide
  have hnames : "//  " = "//" ++ "  " := by decide
  have hedit : "//  DO NOT EDIT" = "//" ++ "  DO NOT EDIT" := by decide
  have hempty : ∃ rest, "//" = "//" ++ rest := ⟨"", by simp⟩
  simp only [bannerLines, List.forall_mem_cons, htool, hnames, hedit, String.append_assoc]
  exact ⟨hempty, ⟨_, rfl⟩, ⟨_, rfl⟩, hempty, ⟨_, rfl⟩, ⟨_, rfl⟩, hempty, List.forall_mem_nil _⟩

end Layout

namespace Settings

theorem importLines_ne_nil (s : Settings) : Layout.importLines s.importLines ≠ [] := by
  have hm : "import Foundation" ∈ Layout.importLines s.importLines := by
    refine Imports.mem_importLines.2 ⟨by decide, "import Foundation", ?_, by decide⟩
    simp [importLines]
  exact List.ne_nil_of_mem hm

def headerLines (s : Settings) : List String :=
  Layout.headerLines s.outputName s.moduleName Header.toolVersion s.disableLint s.condition
    (Layout.importLines s.importLines)

theorem rows_header (s : Settings) :
    Text.rows s.header.toContent.text = s.headerLines.flatMap Text.rows := by
  have hne : s.headerLines ≠ [] := by simp [headerLines, Layout.headerLines]
  rw [text_header, heading, Layout.header_eq s.importLines_ne_nil]
  exact Text.rows_intercalate hne

theorem newline_not_mem_headerLines (s : Settings) :
    (∀ line ∈ s.headerLines, '\n' ∉ line.toList) ↔
      ∀ text ∈ s.outputName :: s.moduleName ::
        (s.condition.toList ++ Layout.importLines s.importLines), '\n' ∉ text.toList := by
  rw [headerLines, Layout.newline_not_mem_headerLines]
  have hversion : '\n' ∉ Header.toolVersion.toList := by decide
  simp [hversion]

/-- The lines of a header are the seven of the banner, the directives, a blank line, those
of the imports and the end of the text. There are others exactly when a line feed stands in
a text that is shown, and then each line is cut where the line feeds are. -/
theorem header_lines (s : Settings) :
    let banner := Layout.bannerLines s.outputName s.moduleName Header.toolVersion
    let imports := Layout.importLines s.importLines
    let lines := banner ++ Layout.directiveLines s.disableLint s.condition ++ [""] ++ imports ++ [""]
    let shown := s.outputName :: s.moduleName :: (s.condition.toList ++ imports)
    Text.rows s.header.toContent.text = lines.flatMap Text.rows ∧
      (Text.rows s.header.toContent.text = lines ↔ ∀ text ∈ shown, '\n' ∉ text.toList) ∧
      banner.length = 7 ∧ (∀ line ∈ banner, ∃ rest, line = "//" ++ rest) ∧
      Text.Ascends imports ∧ imports.Nodup ∧
      ∀ line, line ∈ imports ↔ line ≠ "" ∧ ∃ given ∈ s.importLines, Text.trim given = line := by
  intro banner imports lines shown
  have hrows : Text.rows s.header.toContent.text = lines.flatMap Text.rows := s.rows_header
  have hascends : Text.Ascends imports := Imports.ascends_importLines s.importLines
  have hnodup : imports.Nodup := Text.nodup_of_ascends hascends
  refine ⟨hrows, ?_, rfl, Layout.bannerLines_marked, hascends, hnodup, fun line => ?_⟩
  · rw [hrows, Text.flatMap_rows_eq_iff]
    exact s.newline_not_mem_headerLines
  · exact Imports.mem_importLines

/-- Every text that is shown puts a line of its own into the header. -/
theorem shown_texts_add_lines :
    let s : Settings := {
      moduleName := "Shop\nlet a = 1"
      output := "out/Shop\nlet b = 2"
      imports := .ofList ["import UIKit\nimport Foundation"]
      importModule := false
      runtime := "RT"
      condition := some "DEBUG\nlet c = 3" }
    s.invalid? = none ∧
      Text.rows s.header.toContent.text = ["//", "//  Shop", "let b = 2", "//  Shop", "let a = 1",
        "//", "//  Generated by mockgen v0.3.0.", "//  DO NOT EDIT", "//", "", "#if DEBUG",
        "let c = 3", "", "@testable import RT", "import Foundation", "import UIKit",
        "import Foundation", ""] ∧
      ¬ ∀ line ∈ (Text.rows s.header.toContent.text).take 7, "//".toList <+: line.toList := by
  intro s
  have himports : Layout.importLines s.importLines =
      ["@testable import RT", "import Foundation", "import UIKit\nimport Foundation"] := by
    rw [← Imports.toList_ofList]
    decide +kernel
  have hname : s.outputName = "Shop\nlet b = 2" := by decide +kernel
  have hrows : Text.rows s.header.toContent.text = ["//", "//  Shop", "let b = 2", "//  Shop",
      "let a = 1", "//", "//  Generated by mockgen v0.3.0.", "//  DO NOT EDIT", "//", "",
      "#if DEBUG", "let c = 3", "", "@testable import RT", "import Foundation", "import UIKit",
      "import Foundation", ""] := by
    rw [rows_header, headerLines, himports, hname]
    decide +kernel
  refine ⟨by decide +kernel, hrows, ?_⟩
  rw [hrows]
  decide

end Settings

end Understudy
