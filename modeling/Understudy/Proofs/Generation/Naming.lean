import Understudy.Proofs.Files.Destination
import Understudy.Proofs.Generation.Delivery

/-!
# The file named in the banner

The banner of a document shows the file name that its path has by its letters, or
a name of its own when the path has none. A generation that succeeds has written to
the entry of just that name, so the name of its own is never written
(`document_names_its_file`).
-/

set_option autoImplicit false

namespace Understudy

theorem Layout.banner_starts (fileName moduleName version : String) :
    ∃ rest, banner fileName moduleName version = "//\n//  " ++ fileName ++ "\n" ++ rest := by
  have hopening : "//\n//  " = "//" ++ ("\n" ++ "//  ") := by decide
  refine ⟨"\n".intercalate ["//  " ++ moduleName, "//",
    "//  Generated by mockgen v" ++ version ++ ".", "//  DO NOT EDIT", "//", ""], ?_⟩
  rw [banner, String.intercalate_cons_of_ne_nil (by simp),
    String.intercalate_cons_of_ne_nil (by simp), hopening]
  simp only [String.append_assoc]

namespace Settings

open FileSystem

variable {s : Settings} {render : Mock.Renderer} {fs later : FileSystem} {results : List Rendered}

theorem document_starts (s : Settings)
    (h : results.Pairwise fun r t => r.position < t.position) :
    ∃ rest, (s.documentOf results).content.text = "//\n//  " ++ s.outputName ++ "\n" ++ rest := by
  obtain ⟨rest, hbanner⟩ := Layout.banner_starts s.outputName s.moduleName Header.toolVersion
  rw [text_documentOf h, Layout.document, heading, Layout.header, hbanner]
  simp only [String.append_assoc, String.append_right_inj]
  exact ⟨_, rfl⟩

theorem outputName_of_fileName {name : String} (h : Path.fileName? s.output = some name) :
    s.outputName = name := by
  rw [outputName, h, Option.getD_some]

/-- What a generation that goes through has written, and where. -/
theorem generate_settles {report : Report} (h : s.generate render fs = .ok report later) :
    Path.endsInSlash s.output = false ∧ ∃ name dir text rest,
      Path.fileName? s.output = some name ∧ fs.Aim s.output (name :: dir) ∧
      s.preview render = .ok text ∧ text = "//\n//  " ++ name ++ "\n" ++ rest ∧
      Settled s.output (Text.bytes text) fs later (name :: dir) s.rules.mode := by
  obtain ⟨results, hc, hw, -⟩ := generate_ok h
  obtain ⟨hslash, name, dir, hname, ha, hs⟩ :=
    write_settles (text_documentOf_ne_empty s results) hw
  obtain ⟨rest, hstarts⟩ := s.document_starts (Outcome.collectFrom_texts hc).2.2
  rw [outputName_of_fileName hname] at hstarts
  exact ⟨hslash, name, dir, _, rest, hname, ha, preview_of_collect hc, hstarts, hs⟩

/-- A generation that succeeds, from whatever state, has an output with a file name, has
replaced or opened the entry of that name, and shows that name in its second line. An
output without a file name or with a slash or a dot at its end makes every generation
fail. A path has a file name when the last of its pieces, the blank ones and the dots
aside, is there and is not two dots. -/
theorem document_names_its_file (s : Settings) (render : Mock.Renderer) (fs : FileSystem) :
    (∀ report later, s.generate render fs = .ok report later →
      ∃ name dir text rest, Path.fileName? s.output = some name ∧ fs.Aim s.output (name :: dir) ∧
        s.preview render = .ok text ∧ text = "//\n//  " ++ name ++ "\n" ++ rest ∧
        Settled s.output (Text.bytes text) fs later (name :: dir) s.rules.mode) ∧
    (Path.fileName? s.output = none ∨ (∃ before, s.output = before ++ "/") ∨
        (∃ before, s.output = before ++ "/.") →
      ∀ atomic, ∃ failure later,
        { s with atomic }.generate render fs = .error failure later) ∧
    (Path.fileName? s.output = none ↔
      ∀ name ∈ (Path.counted s.output).getLast?, name = "..") := by
  refine ⟨fun report later h => (generate_settles h).2, fun hshape atomic => ?_, ?_⟩
  · cases h : { s with atomic }.generate render fs with
    | error failure later => exact ⟨failure, later, rfl⟩
    | ok report later =>
      obtain ⟨hslash, name, dir, -, -, hname, ha, -⟩ := generate_settles h
      rcases hshape with hnone | ⟨before, hend⟩ | ⟨before, hend⟩
      · cases hnone.symm.trans hname
      · rw [show s.output = before ++ "/" from hend, Path.endsInSlash_of_slash] at hslash
        cases hslash
      · exact absurd ha (not_aim_of_dot hend)
  · rw [Path.fileName?_eq, Option.filter_eq_none_iff]
    simp

/-- A file that is written through a link shows the name of the link, and the link stays.
A directory has a name, and a dot after it keeps the name from being shown. -/
theorem link_names_its_file :
    let s : Settings := { moduleName := "Shop", output := "link", atomic := false }
    let dotted : Settings := { s with output := "mocks/." }
    ∃ report later text mode,
      s.generate (fun _ => .text "mock") special = .ok report later ∧
      s.preview (fun _ => .text "mock") = .ok text ∧ "//\n//  link\n".toList <+: text.toList ∧
      later.lookup ["link"] = some (.link "tool") ∧
      later.lookup ["tool"] = some (.file (Text.bytes text) mode) ∧
      Path.fileName? dotted.output = some "mocks" ∧
      ∀ atomic, ∃ failure last, { dotted with atomic }.generate (fun _ => .text "mock") stocked =
        .error failure last := by
  intro s dotted
  have hassemble : s.assemble (fun _ => .text "mock") = .ok (s.documentOf []) := by
    rw [assemble_eq, show s.units = [] from Text.sortedBy_eq_self _ List.Pairwise.nil]
    rfl
  have hopens : special.opensAt? "link" = some ["tool"] := by decide
  have hresolved : special.resolve .keep "link" = .ok (.name [] "link" false) := by
    decide
  have haim : special.Aim "link" ["link"] := aim_of_resolve (within_refl special) hresolved
  obtain ⟨made, opened, hm, ho⟩ := opensAt?_eq_some hopens
  obtain ⟨later, hw⟩ : ∃ later, FileSystem.write s.output (s.documentOf []).content s.rules special =
      .ok () later :=
    write_of_open rfl hm ho (Encoding.refusal?_eq_none.2 fun _ _ => rfl)
  have hok := generate_of_write hassemble hw
  obtain ⟨hnamed, -, -⟩ := document_names_its_file s (fun _ => .text "mock") special
  obtain ⟨name, dir, text, rest, hname, ha, hpreview, hstarts, hs⟩ := hnamed _ later hok
  obtain ⟨-, hfailed, -⟩ := document_names_its_file dotted (fun _ => .text "mock") stocked
  obtain ⟨rfl, rfl⟩ := List.cons.inj (aim_unique ha haim)
  have hprefix : "//\n//  link\n".toList <+: text.toList :=
    ⟨rest.toList, by rw [hstarts, ← String.toList_append]; rfl⟩
  cases hs with
  | filled hopens' _ => exact absurd (hopens.symm.trans hopens') (by decide)
  | taken hopens' _ _ => exact absurd (hopens.symm.trans hopens') (by decide)
  | @through goal target mode hlink hstays hopens' hfile =>
    obtain rfl := Option.some.inj (hopens.symm.trans hopens')
    have htarget : special.lookup ["link"] = some (.link "tool") := by decide
    obtain rfl := Entry.link.inj (Option.some.inj (htarget.symm.trans hlink))
    exact ⟨_, later, text, mode, hok, hpreview, hprefix, hstays, hfile, by decide,
      hfailed (.inr (.inr ⟨"mocks", rfl⟩))⟩

end Settings

end Understudy
