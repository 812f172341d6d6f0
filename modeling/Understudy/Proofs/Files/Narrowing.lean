import Understudy.Proofs.Files.Repetition
import Understudy.Proofs.Text.Ascii

/-!
# Writing in ASCII what can be written in UTF-8

The encoding shows in a write only in what it refuses. Where a write in UTF-8 goes
through, the same write in ASCII does the same when the text is plain (`write_plain`),
and otherwise gets as far as the first character that is not, and fails there
(`write_beyond`).
-/

set_option autoImplicit false

namespace Understudy

open Text (Plain)

namespace Encoding

theorem accepts_ascii_iff {text : String} : ascii.accepts text = true ↔ Plain text :=
  Text.all_isAscii_iff text

theorem refusal?_ascii_eq_none {ts : List String} :
    ascii.refusal? ts = none ↔ Plain (String.join ts) := by
  rw [refusal?_eq_none, Text.plain_join]
  exact forall₂_congr fun _ _ => accepts_ascii_iff

theorem exists_refused {ts : List String} (h : ¬ Plain (String.join ts)) :
    ∃ before lead c trail behind, ts = before ++ (lead ++ String.singleton c ++ trail) :: behind ∧
      Plain (String.join before ++ lead) ∧ 128 ≤ c.toNat ∧
      ascii.refusal? ts = some lead.utf8ByteSize := by
  cases hf : ts.find? fun t => !ascii.accepts t with
  | none =>
    refine absurd (refusal?_ascii_eq_none.1 ?_) h
    rw [refusal?, hf]
    rfl
  | some t =>
    obtain ⟨ht, before, behind, rfl, hbefore⟩ := List.find?_eq_some_iff_append.1 hf
    have hbeyond : ¬ Plain t := by
      rw [← accepts_ascii_iff]
      simpa using ht
    obtain ⟨lead, c, trail, rfl, hl, hc⟩ := Text.exists_beyond hbeyond
    refine ⟨before, lead, c, trail, behind, rfl, Text.plain_append.2 ⟨?_, hl⟩, hc, ?_⟩
    · refine Text.plain_join.2 fun u hu => accepts_ascii_iff.1 ?_
      simpa using hbefore u hu
    · rw [refusal?, hf]
      exact Text.firstNonAscii?_beyond hl hc trail

end Encoding

namespace Content

variable {σ : Type} {c : Content}

theorem emit_plain (h : Plain c.text) (write : Writer σ) :
    c.emit .ascii write = c.emit .utf8 write := by
  have hall : ∀ t ∈ c.fragments, Encoding.ascii.accepts t = true := fun t ht =>
    Encoding.accepts_ascii_iff.2 (Text.plain_join.1 h t ht)
  rw [emit, emit, walk_eq, walk_eq]
  generalize c.fragments = ts at hall
  induction ts with
  | nil => rfl
  | cons t ts ih =>
    obtain ⟨ht, hts⟩ := List.forall_mem_cons.1 hall
    have hsame : emitText .ascii write t = emitText .utf8 write t := by
      rw [emitText, emitText, Encoding.encode_of_accepts ht]
      rfl
    rw [visitAll, visitAll, hsame, ih hts]

end Content

namespace FileSystem

variable {path : String} {c : Content} {fs later : FileSystem} {loc : Location}

theorem fill_plain (h : Plain c.text) (handle : Handle) :
    fill handle .ascii c = fill handle .utf8 c := by
  funext fs
  simp only [fill, Content.emit_plain h]

theorem write_plain (h : Plain c.text) (path : String) (mode : WriteMode) (fs : FileSystem) :
    write path c { mode, encoding := .ascii } fs = write path c { mode, encoding := .utf8 } fs := by
  have hdirect : writeDirect path .ascii c = writeDirect path .utf8 c := by
    unfold writeDirect
    rw [funext (fill_plain h)]
  have hatomic : writeAtomic path .ascii c = writeAtomic path .utf8 c := by
    unfold writeAtomic
    simp only [fill_plain h]
  unfold write
  rw [hdirect, hatomic]

theorem writeAtomic_refused {encoding : Encoding} {offset : Nat} {created : FileSystem}
    (hc : createTemporary (Path.directory path) (temporaryStem path) maxTries 0 fs =
      .ok loc created)
    (hr : encoding.refusal? c.fragments = some offset) :
    ∃ failed, writeAtomic path encoding c fs = .error (.notEncodable encoding offset) failed := by
  obtain ⟨filled, hf, -⟩ := fill_file loc encoding c created
  rw [emissionEnd, hr] at hf
  refine ⟨filled.remove loc, ?_⟩
  simp only [writeAtomic, bind, EStateM.bind, EStateM.adaptExcept, hc, onFailure, hf]

theorem writeDirect_refused {encoding : Encoding} {offset : Nat} {handle : Handle}
    {opened filled : FileSystem} (ho : openForWriting path fs = .ok handle opened)
    (hf : fill handle encoding c opened = emissionEnd encoding c.fragments filled)
    (hr : encoding.refusal? c.fragments = some offset) :
    writeDirect path encoding c fs = .error (.notEncodable encoding offset) filled := by
  rw [writeDirect_of_open encoding c ho, hf, emissionEnd, hr]

/-- Where a write in UTF-8 goes through, a refused fragment is all that keeps another
encoding from it. -/
theorem write_refused {mode : WriteMode} {encoding : Encoding} {offset : Nat} (hne : c.text ≠ "")
    (h : write path c { mode, encoding := .utf8 } fs = .ok () later)
    (hr : encoding.refusal? c.fragments = some offset) :
    ∃ failed, write path c { mode, encoding } fs =
      .error (.notEncodable encoding offset) failed := by
  obtain ⟨made, hm, hw⟩ := write_ok h
  rw [write_of_made hm, writeInto]
  cases mode with
  | direct =>
    obtain ⟨handle, opened, ho, hf⟩ := writeDirect_ok hw
    cases handle with
    | file loc =>
      obtain ⟨filled, hfilled, -⟩ := fill_file loc encoding c opened
      exact ⟨filled, writeDirect_refused ho hfilled hr⟩
    | device kind =>
      obtain ⟨rfl, rfl⟩ := fill_device hne hf
      exact ⟨_, writeDirect_refused ho (fill_null encoding c _) hr⟩
  | atomic =>
    obtain ⟨loc, created, hc⟩ := createTemporary_of_ok hw
    exact writeAtomic_refused hc hr

theorem write_beyond {mode : WriteMode} (hne : c.text ≠ "")
    (h : write path c { mode, encoding := .utf8 } fs = .ok () later) (hp : ¬ Plain c.text) :
    ∃ before lead first trail behind failed,
      c.fragments = before ++ (lead ++ String.singleton first ++ trail) :: behind ∧
      Plain (String.join before ++ lead) ∧ 128 ≤ first.toNat ∧
      write path c { mode, encoding := .ascii } fs =
        .error (.notEncodable .ascii lead.utf8ByteSize) failed := by
  obtain ⟨before, lead, first, trail, behind, hcut, hlead, hfirst, hr⟩ := Encoding.exists_refused hp
  obtain ⟨failed, hfailed⟩ := write_refused hne h hr
  exact ⟨before, lead, first, trail, behind, failed, hcut, hlead, hfirst, hfailed⟩

theorem spared_of_error {encoding : Encoding} {failure : Failure}
    (h : write path c { mode := .atomic, encoding } fs = .error failure later) (loc : Location) :
    Spared (Path.ancestors path).tail fs later loc :=
  (atomicWrite_spares (write_atomicWrite path encoding c fs)).failed failure later h loc

end FileSystem

end Understudy
