import Understudy.Proofs.Document.Arrangement
import Understudy.Proofs.Generation.Units

/-!
# The text of a generation

When no type fails to render, the document is its layout: the banner, the import
lines and what the settings ask for in the header, then the support declarations
and the rendered texts in the order of the names, and the end of the guard when
one was opened.
-/

set_option autoImplicit false

namespace Understudy

namespace Assembly

variable {a : Assembly} {results : List Rendered}

theorem texts_declarations (h : results.Pairwise fun r s => r.position < s.position) :
    (a.declarations results).map Content.text =
      if results = [] then [] else a.support.map Content.text ++ results.map (·.text) := by
  rw [declarations, inOrder_eq h]
  split
  · rfl
  · simp [Function.comp_def]

end Assembly

namespace Mock.Support

variable (runtime : String)

theorem trim_leaves : ∀ c ∈ leaves runtime, c.Trim := by
  simp [leaves, Content.trim_leaf]

theorem text_leaves : (leaves runtime).map Content.text = texts runtime := by
  simp [leaves, Function.comp_def]

theorem filter_texts : (texts runtime).filter (· ≠ "") = texts runtime := by
  have hwrapper : synchronizedWrapper ≠ "" := by
    apply Content.intercalate_ne_empty
    decide
  have hregistry : registry runtime ≠ "" := by
    delta registry
    simp [-String.reduceAppend]
  simp [texts, hwrapper, hregistry]

end Mock.Support

theorem Layout.header_ne_empty (banner : String) (disableLint : Bool) (condition : Option String)
    (imports : List String) : header banner disableLint condition imports ≠ "" := by
  simp [header, -String.reduceAppend]

namespace Settings

variable {s : Settings}

theorem toList_imports (s : Settings) :
    s.header.imports.toList = Layout.importLines s.importLines := Imports.toList_ofList _

def heading (s : Settings) : String :=
  Layout.header (Layout.banner s.outputName s.moduleName Header.toolVersion) s.disableLint
    s.condition (Layout.importLines s.importLines)

theorem text_header (s : Settings) : s.header.toContent.text = s.heading := by
  rw [Header.text_toContent (by rw [toList_imports]; exact Imports.not_mem_importLines),
    toList_imports]
  rfl

theorem text_documentOf {results : List Rendered}
    (h : results.Pairwise fun r t => r.position < t.position) :
    (s.documentOf results).content.text = Layout.document s.heading
      (if results = [] then []
       else Mock.Support.texts s.runtime ++ (results.map (·.text)).filter (· ≠ ""))
      s.condition.isSome := by
  have hne : s.assembly.header.text ≠ "" := by
    rw [assembly, text_header]
    exact Layout.header_ne_empty _ _ _ _
  have ht : (s.documentOf results).content.text = _ :=
    Assembly.text_document (a := s.assembly) (Header.trim_toContent _) hne
      (Mock.Support.trim_leaves s.runtime)
  rw [ht, Assembly.texts_declarations h, assembly, text_header, Mock.Support.text_leaves]
  congr 1
  split
  · rfl
  · rw [List.filter_append, Mock.Support.filter_texts]

theorem preview_of_texts {render : Mock.Renderer} {text : Mock.Descriptor → String}
    (h : ∀ d ∈ s.units, render d = .text (text d)) :
    s.preview render = .ok (Layout.document s.heading
      (if s.units = [] then []
       else Mock.Support.texts s.runtime ++ (s.units.map text).filter (· ≠ ""))
      s.condition.isSome) := by
  have hrender : s.units.map render = (s.units.map text).map .text := by
    rw [List.map_map]
    exact List.map_congr_left h
  obtain ⟨results, hr⟩ := Outcome.collectFrom_map_text 0 (s.units.map text)
  obtain ⟨htexts, -, hascends⟩ := Outcome.collectFrom_texts hr
  have hshown : results.map (·.text) = s.units.map text := by
    have hm : (s.units.map text).map Outcome.text = (results.map (·.text)).map .text := by
      rw [htexts, List.map_map]
      rfl
    exact (List.map_inj_right fun t u htu => Outcome.text.inj htu).1 hm.symm
  have hnone : results = [] ↔ s.units = [] := by
    rw [← List.map_eq_nil_iff (f := Rendered.text), hshown, List.map_eq_nil_iff]
  have hcollect : Outcome.collect (s.units.map render) = .ok results := by
    rw [hrender]
    exact hr
  rw [preview_of_collect hcollect, text_documentOf hascends, hshown, if_congr hnone rfl rfl]

/-- The preview of a generation in which no type fails to render, part by part. The
types come in the order of their names, those of one name as they are declared. -/
theorem preview_layout (s : Settings) (render : Mock.Renderer) (text : Mock.Descriptor → String)
    (h : ∀ d ∈ s.units, render d = .text (text d)) :
    s.preview render = .ok (Layout.document
        (Layout.header (Layout.banner s.outputName s.moduleName Header.toolVersion) s.disableLint
          s.condition
          (Layout.importLines (s.imports.toList ++
            ["import Foundation", "@testable import " ++ s.runtime] ++
              if s.importModule then ["@testable import " ++ s.moduleName] else [])))
        (if s.units = [] then []
         else Mock.Support.synchronizedWrapper :: Mock.Support.registry s.runtime ::
          (s.units.map text).filter (· ≠ ""))
        s.condition.isSome) ∧
      s.units.Perm (s.types.filter s.selects) ∧
      s.units.Pairwise (fun d e => Text.before e.name d.name = false) ∧
      ∀ name, s.units.filter (fun d => d.name == name) =
        (s.types.filter s.selects).filter fun d => d.name == name :=
  ⟨preview_of_texts h, perm_units s, pairwise_units s, filter_units s⟩

/-- Two protocols of one name around a class that cannot be rendered and is left out,
a text that is empty, and an import line that is given twice. -/
theorem repeated_name_layout :
    let s : Settings := {
      moduleName := "Shop"
      output := "out/Shop.swift"
      imports := .ofList ["import UIKit", " import Foundation "]
      importModule := false
      runtime := "RT"
      condition := some "DEBUG"
      onlyProtocols := true
      types := [⟨"Till", .protocolType, ["second"]⟩, ⟨"Cart", .classType, []⟩,
        ⟨"Till", .protocolType, []⟩, ⟨"Bag", .protocolType, ["first"]⟩] }
    let text : Mock.Descriptor → String := fun d => String.join d.members
    let render : Mock.Renderer := fun d =>
      if d.kind = .classType then .refused "no class" else .text (text d)
    let heading := "\n".intercalate ["//", "//  Shop.swift", "//  Shop", "//",
      "//  Generated by mockgen v0.3.0.", "//  DO NOT EDIT", "//", "", "#if DEBUG", "",
      "@testable import RT", "import Foundation", "import UIKit", ""]
    s.units = [⟨"Bag", .protocolType, ["first"]⟩, ⟨"Till", .protocolType, ["second"]⟩,
        ⟨"Till", .protocolType, []⟩] ∧
      (∀ d ∈ s.units, render d = .text (text d)) ∧
      s.preview render = .ok (heading ++ "\n" ++ Mock.Support.synchronizedWrapper ++ "\n\n" ++
        Mock.Support.registry "RT" ++ "\n\n" ++ "first" ++ "\n\n" ++ "second" ++ "\n\n#endif" ++
        "\n") := by
  intro s text render heading
  have hunits : s.units = [⟨"Bag", .protocolType, ["first"]⟩,
      ⟨"Till", .protocolType, ["second"]⟩, ⟨"Till", .protocolType, []⟩] := by
    refine Text.sortedBy_eq _ (by decide +kernel) fun name => ?_
    by_cases hbag : "Bag" = name
    · subst hbag
      decide +kernel
    by_cases htill : "Till" = name
    · subst htill
      decide +kernel
    · simp [s, selects, hbag, htill]
  have hrender : ∀ d ∈ s.units, render d = .text (text d) := by
    rw [hunits]
    simp [render]
  have himports : Layout.importLines (s.imports.toList ++
      ["import Foundation", "@testable import " ++ s.runtime] ++
        if s.importModule then ["@testable import " ++ s.moduleName] else []) =
      ["@testable import RT", "import Foundation", "import UIKit"] := by
    rw [← Imports.toList_ofList]
    decide +kernel
  have hname : s.outputName = "Shop.swift" := by decide +kernel
  have hheading : Layout.header (Layout.banner "Shop.swift" s.moduleName Header.toolVersion)
      s.disableLint s.condition ["@testable import RT", "import Foundation", "import UIKit"] =
      heading := by decide +kernel
  have htexts : (s.units.map text).filter (· ≠ "") = ["first", "second"] := by
    rw [hunits]
    decide +kernel
  obtain ⟨hpreview, -⟩ := preview_layout s render text hrender
  refine ⟨hunits, hrender, ?_⟩
  rw [hpreview, himports, hname, hheading, htexts, hunits]
  simp [Layout.document, s, String.append_assoc, -String.reduceAppend]

end Settings

end Understudy
