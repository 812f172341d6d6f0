import Understudy.Proofs.Files.Frame
import Understudy.Proofs.Output.Reach

/-!
# Filling a file

Whatever the sizes of the fragments, filling a file through the buffer comes to
appending, in some number of writes, exactly the bytes that the encoding reaches
(`fill_file`). The buffer shows only in how the bytes are divided among the
writes. A device is left as it was: the null device takes the bytes as a file does
(`fill_null`), the full one nothing (`fill_full`).
-/

set_option autoImplicit false

namespace Understudy

/-- A writer that never fails, where `reached` says which bytes it has got in which state. -/
def Takes {σ : Type} (write : Writer σ) (reached : List UInt8 → σ → Prop) : Prop :=
  ∀ written bytes s, reached written s →
    ∃ s', write bytes s = .ok () s' ∧ reached (written ++ bytes) s'

section Taking

variable {σ : Type} {write : Writer σ} {reached : List UInt8 → σ → Prop} {written : List UInt8}
  {b : Buffered σ}

theorem takes_flush (ht : Takes write reached) (h : reached written b.below) :
    ∃ later, Buffered.flush write b = .ok () ⟨#[], later⟩ ∧
      reached (written ++ b.pending.toList) later := by
  obtain ⟨pending, below⟩ := b
  by_cases he : pending.isEmpty = true
  · obtain rfl : pending = #[] := by simpa using he
    exact ⟨below, rfl, by simpa using h⟩
  · obtain ⟨later, hw, hl⟩ := ht written pending.toList below h
    exact ⟨later, by simp [Buffered.flush, he, hw], hl⟩

theorem takes_writeAll (ht : Takes write reached) (bytes : List UInt8)
    (h : reached written b.below) :
    ∃ b' written', Buffered.writeAll write bytes b = .ok () b' ∧ reached written' b'.below ∧
      written' ++ b'.pending.toList = written ++ b.pending.toList ++ bytes := by
  -- Room comes first, by a flush if need be; then the bytes wait, or all are written.
  obtain ⟨room, hroom, flushed, hflushed, hp, hfit⟩ : ∃ room : Buffered σ,
      Buffered.makeRoom write bytes.length b = .ok () room ∧
      ∃ flushed, reached flushed room.below ∧
        flushed ++ room.pending.toList = written ++ b.pending.toList ∧
        (Buffered.capacity ≤ bytes.length → room.pending = #[]) := by
    by_cases hc : Buffered.capacity < b.pending.size + bytes.length
    · obtain ⟨later, hf, hl⟩ := takes_flush ht h
      exact ⟨⟨#[], later⟩, by simp [Buffered.makeRoom, hc, hf], _, hl, by simp, fun _ => rfl⟩
    · refine ⟨b, by simp [Buffered.makeRoom, hc], written, h, rfl, fun hl => ?_⟩
      apply Array.eq_empty_of_size_eq_zero
      omega
  by_cases hl : Buffered.capacity ≤ bytes.length
  · obtain ⟨later, hw, hlater⟩ := ht flushed bytes room.below hflushed
    refine ⟨⟨room.pending, later⟩, flushed ++ bytes, ?_, hlater, ?_⟩
    · simp [Buffered.writeAll, bind, EStateM.bind, hroom, Buffered.deliver, hl, hw]
    · rw [← hp, hfit hl]
      simp
  · refine ⟨⟨room.pending ++ bytes, room.below⟩, flushed, ?_, hflushed, ?_⟩
    · simp [Buffered.writeAll, bind, EStateM.bind, hroom, Buffered.deliver, hl]
    · rw [← hp]
      simp

theorem takes_emit (ht : Takes write reached) (encoding : Encoding) (ts : List String)
    (h : reached written b.below) :
    ∃ b' written', Content.visitAll (Content.emitText encoding (Buffered.writeAll write)) ts b =
        emissionEnd encoding ts b' ∧ reached written' b'.below ∧
      written' ++ b'.pending.toList = written ++ b.pending.toList ++ encoding.reach ts := by
  induction ts generalizing b written with
  | nil => exact ⟨b, written, rfl, h, by simp [Encoding.reach]⟩
  | cons t ts ih =>
    cases ha : encoding.accepts t with
    | true =>
      obtain ⟨b₁, w₁, he, hl, hw⟩ := takes_writeAll ht (Text.bytes t) h
      obtain ⟨b₂, w₂, he', hl', hw'⟩ := ih hl
      refine ⟨b₂, w₂, ?_, hl', ?_⟩
      · rw [Content.visitAll_emitText_of_accepts ha, he, Content.emissionEnd_of_accepts ha, ← he']
      · rw [Encoding.reach_cons_of_accepts ha, hw', hw, List.append_assoc]
    | false =>
      refine ⟨b, written, Content.visitAll_emitText_of_not_accepts ha b, h, ?_⟩
      simp [Encoding.reach_cons_of_not_accepts ha]

end Taking

namespace FileSystem

/-- Bytes appended to a file in any number of writes. -/
inductive Appends (loc : Location) : List UInt8 → FileSystem → FileSystem → Prop
  | nothing (fs : FileSystem) : Appends loc [] fs fs
  | more {written chunk : List UInt8} {fs later last : FileSystem} :
      Appends loc written fs later → append (.file loc) chunk later = .ok () last →
      Appends loc (written ++ chunk) fs last

variable {loc : Location} {fs later last : FileSystem} {written : List UInt8}

theorem appends_frame (h : Appends loc written fs later) :
    OnlyAt loc fs later ∧ ∀ old mode, fs.lookup loc = some (.file old mode) →
      later.lookup loc = some (.file (old ++ written) mode) := by
  induction h with
  | nothing fs => exact ⟨onlyAt_refl loc fs, by simp⟩
  | @more written chunk fs later last _ ha ih =>
    obtain ⟨last', ha', ho, hl⟩ := append_file loc chunk later
    obtain rfl : last' = last := by simpa [ha'] using ha
    refine ⟨onlyAt_trans ih.1 ho, fun old mode h => ?_⟩
    rw [← List.append_assoc]
    exact hl _ _ (ih.2 old mode h)

theorem fill_takes {handle : Handle} {reached : List UInt8 → FileSystem → Prop}
    (ht : Takes (append handle) reached) (h : reached [] fs) (encoding : Encoding) (c : Content) :
    ∃ later, fill handle encoding c fs = emissionEnd encoding c.fragments later ∧
      reached (encoding.reach c.fragments) later := by
  have hstart : reached [] (Buffered.mk #[] fs).below := h
  obtain ⟨b, written, he, hb, hw⟩ := takes_emit ht encoding c.fragments hstart
  obtain ⟨later, hf, hl⟩ := takes_flush ht hb
  refine ⟨later, ?_, by simpa [hw] using hl⟩
  rw [← Content.walk_eq] at he
  unfold fill
  simp only [Content.emit, he]
  unfold emissionEnd
  cases encoding.refusal? c.fragments with
  | none => simp [hf]
  | some offset => simp [hf]

theorem fill_file (loc : Location) (encoding : Encoding) (c : Content) (fs : FileSystem) :
    ∃ later, fill (.file loc) encoding c fs = emissionEnd encoding c.fragments later ∧
      Appends loc (encoding.reach c.fragments) fs later := by
  have ht : Takes (append (.file loc)) fun written later => Appends loc written fs later := by
    intro written bytes later ha
    obtain ⟨last, hw, -⟩ := append_file loc bytes later
    exact ⟨last, hw, .more ha hw⟩
  exact fill_takes ht (.nothing fs) encoding c

theorem fill_file_ok {encoding : Encoding} {c : Content}
    (h : fill (.file loc) encoding c fs = .ok () later) :
    Appends loc (Text.bytes c.text) fs later := by
  obtain ⟨filled, hf, ha⟩ := fill_file loc encoding c fs
  rw [hf, emissionEnd] at h
  cases hr : encoding.refusal? c.fragments with
  | some offset =>
    rw [hr] at h
    cases h
  | none =>
    rw [hr] at h
    obtain rfl := (EStateM.Result.ok.inj h).2
    rwa [Encoding.reach_eq_bytes hr] at ha

section Devices

theorem fill_null (encoding : Encoding) (c : Content) (fs : FileSystem) :
    fill (.device .null) encoding c fs = emissionEnd encoding c.fragments fs := by
  have ht : Takes (append (.device .null)) fun _ later => later = fs := fun _ _ later hl =>
    ⟨later, rfl, hl⟩
  obtain ⟨later, hf, rfl⟩ := fill_takes ht rfl encoding c
  exact hf

variable {bytes : List UInt8} {encoding : Encoding} {b b' : Buffered FileSystem}

theorem flush_full (h : Buffered.flush (append (.device .full)) b = .ok () b') :
    b.pending = #[] ∧ b' = b := by
  unfold Buffered.flush at h
  split at h
  · rename_i he
    exact ⟨by simpa using he, (EStateM.Result.ok.inj h).2.symm⟩
  · simp [append] at h

theorem writeAll_full (h : Buffered.writeAll (append (.device .full)) bytes b = .ok () b') :
    b'.pending.toList = b.pending.toList ++ bytes := by
  have hroom : Buffered.makeRoom (append (.device .full)) bytes.length b = .ok () b := by
    cases hm : Buffered.makeRoom (append (.device .full)) bytes.length b with
    | error cause room => simp [Buffered.writeAll, bind, EStateM.bind, hm] at h
    | ok u room =>
      unfold Buffered.makeRoom at hm
      split at hm
      · rw [(flush_full hm).2]
      · exact hm.symm
  simp only [Buffered.writeAll, bind, EStateM.bind, hroom, Buffered.deliver] at h
  split at h
  · simp [append] at h
  · obtain rfl := (EStateM.Result.ok.inj h).2
    simp

theorem emit_full {ts : List String} (h : Content.visitAll
      (Content.emitText encoding (Buffered.writeAll (append (.device .full)))) ts b = .ok () b') :
    encoding.refusal? ts = none ∧ b'.pending.toList = b.pending.toList ++ encoding.reach ts := by
  induction ts generalizing b with
  | nil =>
    obtain rfl := (EStateM.Result.ok.inj h).2
    exact ⟨rfl, by simp [Encoding.reach]⟩
  | cons t ts ih =>
    cases ha : encoding.accepts t with
    | true =>
      rw [Content.visitAll_emitText_of_accepts ha] at h
      cases hw : Buffered.writeAll (append (.device .full)) (Text.bytes t) b with
      | error cause b₁ => simp [hw] at h
      | ok u b₁ =>
        rw [hw] at h
        obtain ⟨hr, hp⟩ := ih h
        refine ⟨by rw [Encoding.refusal?_cons_of_accepts ha, hr], ?_⟩
        rw [hp, writeAll_full hw, Encoding.reach_cons_of_accepts ha, List.append_assoc]
    | false =>
      obtain ⟨offset, ho, -⟩ := Encoding.encode_of_not_accepts ha
      rw [Content.visitAll_emitText_of_not_accepts ha, emissionEnd,
        Encoding.refusal?_cons_of_not_accepts ha, ho] at h
      cases h

/-- The full device takes nothing, so only the empty text can be written to it. -/
theorem fill_full {c : Content} (h : fill (.device .full) encoding c fs = .ok () later) :
    encoding.refusal? c.fragments = none ∧ c.text = "" := by
  unfold fill at h
  simp only [Content.emit, Content.walk_eq] at h
  split at h
  · rename_i b he
    obtain ⟨hr, hp⟩ := emit_full he
    split at h
    · rename_i hf
      rw [(flush_full hf).1] at hp
      refine ⟨hr, Text.bytes_eq_nil_iff.1 ?_⟩
      rw [Content.text, ← Encoding.reach_eq_bytes hr]
      simpa using hp.symm
    · cases h
  · split at h <;> cases h

theorem fill_device {kind : Device} {c : Content} (hne : c.text ≠ "")
    (h : fill (.device kind) encoding c fs = .ok () later) : kind = .null ∧ later = fs := by
  cases kind with
  | full => exact absurd (fill_full h).2 hne
  | null =>
    rw [fill_null, emissionEnd] at h
    split at h
    · exact ⟨rfl, (EStateM.Result.ok.inj h).2.symm⟩
    · cases h

end Devices

end FileSystem

end Understudy
