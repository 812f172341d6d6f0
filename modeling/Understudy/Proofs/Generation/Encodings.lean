import Understudy.Proofs.Files.Narrowing
import Understudy.Proofs.Generation.Delivery

/-!
# A generation in either encoding

Where a generation in UTF-8 succeeds, one in ASCII from the same state succeeds too if
the preview is plain, with the same report and the same files, and otherwise fails at
the first character of the preview that is not (`ascii_follows_utf8`). The characters may
come from the module, the types or any other setting: it is fragment by fragment that
they are refused, and the fragments make up the text.
-/

set_option autoImplicit false

namespace Understudy.Settings

open FileSystem
open Text (Plain)

variable {s : Settings} {render : Mock.Renderer} {fs later : FileSystem}

theorem generate_in (s : Settings) (encoding : Encoding) (render : Mock.Renderer)
    (fs : FileSystem) : { s with encoding }.generate render fs =
      match s.assemble render with
      | .error failure => .error failure fs
      | .ok d =>
        match FileSystem.write s.output d.content { mode := s.rules.mode, encoding } fs with
        | .error failure later => .error failure later
        | .ok () later => .ok (s.report d) later := by
  have ha : { s with encoding }.assemble render = s.assemble render := rfl
  rw [generate, ha]
  cases s.assemble render with
  | error failure => rfl
  | ok d =>
    have hf : { s with encoding }.file d = ⟨s.output, d.content, ⟨s.rules.mode, encoding⟩⟩ := rfl
    simp only [hf, GeneratedFile.write, bind, EStateM.bind]
    cases FileSystem.write s.output d.content { mode := s.rules.mode, encoding } fs <;> rfl

theorem generate_in_ok {encoding : Encoding} {report : Report}
    (h : { s with encoding }.generate render fs = .ok report later) :
    ∃ d, s.assemble render = .ok d ∧ report = s.report d ∧
      FileSystem.write s.output d.content { mode := s.rules.mode, encoding } fs = .ok () later := by
  rw [generate_in] at h
  cases ha : s.assemble render with
  | error failure =>
    rw [ha] at h
    cases h
  | ok d =>
    rw [ha] at h
    dsimp only at h
    cases hw : FileSystem.write s.output d.content { mode := s.rules.mode, encoding } fs with
    | error failure failed =>
      rw [hw] at h
      cases h
    | ok u written =>
      rw [hw] at h
      obtain ⟨rfl, rfl⟩ := EStateM.Result.ok.inj h
      exact ⟨d, rfl, rfl, hw⟩

/-- Where a generation in UTF-8 succeeds, the same generation in ASCII succeeds just when
the preview is plain, and then reports the same and leaves the same. Otherwise it fails at
the first character of the preview that is beyond ASCII, at its place within the fragment
that holds it: the lengths of the fragments before make that the place in the preview.
What was there is spared then if the generation is atomic. -/
theorem ascii_follows_utf8 (s : Settings) (render : Mock.Renderer) (fs : FileSystem)
    {report : Report} {later : FileSystem}
    (h : { s with encoding := .utf8 }.generate render fs = .ok report later) :
    let ascii : Settings := { s with encoding := .ascii }
    ∃ d, s.assemble render = .ok d ∧ s.preview render = .ok d.content.text ∧
      ((∃ report' later', ascii.generate render fs = .ok report' later') ↔
        Plain d.content.text) ∧
      (Plain d.content.text → ascii.generate render fs = .ok report later) ∧
      (¬ Plain d.content.text → ∃ before lead c trail behind failed,
        d.content.fragments = before ++ (lead ++ String.singleton c ++ trail) :: behind ∧
        d.content.text =
          String.join before ++ lead ++ String.singleton c ++ (trail ++ String.join behind) ∧
        Plain (String.join before ++ lead) ∧ 128 ≤ c.toNat ∧
        Content.totalLength before + lead.utf8ByteSize =
          (String.join before ++ lead).utf8ByteSize ∧
        ascii.generate render fs = .error (.notEncodable .ascii lead.utf8ByteSize) failed ∧
        (s.atomic = true → ∀ loc, Spared (Path.ancestors s.output).tail fs failed loc)) := by
  intro ascii
  obtain ⟨d, ha, rfl, hw⟩ := generate_in_ok h
  have hsame : Plain d.content.text → ascii.generate render fs = .ok (s.report d) later := by
    intro hp
    rw [generate_in, ha]
    dsimp only
    rw [write_plain hp, hw]
  have hrefused := write_beyond (text_of_assemble_ne_empty ha) hw
  have hpreview : s.preview render = .ok d.content.text := by
    rw [preview, ha]
    rfl
  refine ⟨d, ha, hpreview, ⟨?_, fun hp => ⟨_, _, hsame hp⟩⟩, hsame, ?_⟩
  · rintro ⟨report', later', hok⟩
    by_contra hp
    obtain ⟨_, _, _, _, _, failed, -, -, -, hfailed⟩ := hrefused hp
    obtain ⟨d', ha', -, hw'⟩ := generate_in_ok hok
    obtain rfl := Except.ok.inj (ha.symm.trans ha')
    rw [hfailed] at hw'
    cases hw'
  · intro hp
    obtain ⟨before, lead, c, trail, behind, failed, hcut, hlead, hc, hfailed⟩ := hrefused hp
    refine ⟨before, lead, c, trail, behind, failed, hcut, ?_, hlead, hc, ?_, ?_, ?_⟩
    · rw [Content.text, hcut, String.join_append, String.join_cons]
      simp only [String.append_assoc]
    · rw [String.utf8ByteSize_append, Content.utf8ByteSize_join]
    · rw [generate_in, ha]
      dsimp only
      rw [hfailed]
    · intro hatomic
      have hmode : s.rules.mode = .atomic := by rw [rules, if_pos hatomic]
      rw [hmode] at hfailed
      exact spared_of_error hfailed

/-- A condition that ASCII cannot hold, seven bytes into its fragment and after two others,
when there is a file to be spared. -/
theorem refused_condition_spares_file :
    let s : Settings := {
      moduleName := "Shop"
      output := "mocks/Shop.swift"
      condition := some "größe"
      disableLint := true }
    let render : Mock.Renderer := fun _ => .refused "no"
    ∃ report later text failed, { s with encoding := .utf8 }.generate render stocked =
        .ok report later ∧
      s.preview render = .ok text ∧ ¬ Plain text ∧
      { s with encoding := .ascii }.generate render stocked =
        .error (.notEncodable .ascii 7) failed ∧
      failed.lookup ["Shop.swift", "mocks"] = some (.file stale 0o600) := by
  intro s render
  have hunits : s.units = [] := by simp [units, s]
  have hassemble : s.assemble render = .ok (s.documentOf []) := by
    rw [assemble_eq, hunits]
    rfl
  have hrefused : Encoding.ascii.refusal? (s.documentOf []).content.fragments = some 7 := by
    decide
  have hbeyond : ¬ Plain (s.documentOf []).content.text := by
    rw [Content.text, ← Encoding.refusal?_ascii_eq_none, hrefused]
    simp
  obtain ⟨later, hw⟩ : ∃ later, FileSystem.write s.output (s.documentOf []).content
      { mode := .atomic, encoding := .utf8 } stocked = .ok () later :=
    write_stocked .atomic _
  have hok : { s with encoding := .utf8 }.generate render stocked = .ok _ later :=
    generate_of_write hassemble hw
  obtain ⟨d, hd, hpreview, -, -, hfails⟩ := ascii_follows_utf8 s render stocked hok
  obtain rfl := Except.ok.inj (hassemble.symm.trans hd)
  obtain ⟨before, lead, c, trail, behind, failed, -, -, -, -, -, hfailed, hspared⟩ := hfails hbeyond
  have hsame : { s with encoding := .ascii }.generate render stocked =
      .error (.notEncodable .ascii 7) failed := by
    obtain ⟨failed', hw'⟩ := write_refused (text_of_assemble_ne_empty hd) hw hrefused
    rw [generate_in, hd] at hfailed ⊢
    dsimp only at hfailed ⊢
    rw [show s.rules.mode = .atomic from rfl, hw'] at hfailed ⊢
    rw [(EStateM.Result.error.inj hfailed).2]
  refine ⟨_, later, _, failed, hok, hpreview, hbeyond, hsame, ?_⟩
  have hfound := (target_ok target_stocked).2
  rcases hspared rfl ["Shop.swift", "mocks"] with he | ⟨hnone, -⟩
  · rw [he, hfound]
  · rw [hfound] at hnone
    cases hnone

end Understudy.Settings
