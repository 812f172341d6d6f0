import Understudy.Text.Bytes

/-!
# Characters that ASCII can hold

A text is plain when all of its characters are below 128, which is to say that all of
its bytes are (`all_isAscii_iff`). The first byte that ASCII cannot hold begins the first
character that is not plain, where the plain ones before it end
(`firstNonAscii?_beyond`).
-/

set_option autoImplicit false

namespace Understudy.Text

def Plain (text : String) : Prop := ∀ c ∈ text.toList, c.toNat < 128

theorem plain_append {s t : String} : Plain (s ++ t) ↔ Plain s ∧ Plain t := by
  simp only [Plain, String.toList_append, List.mem_append, or_imp, forall_and]

theorem plain_join {ts : List String} : Plain (String.join ts) ↔ ∀ t ∈ ts, Plain t := by
  induction ts with
  | nil => simp [Plain]
  | cons t ts ih => rw [String.join_cons, plain_append, ih, List.forall_mem_cons]

theorem bytes_singleton (c : Char) : bytes (String.singleton c) = String.utf8EncodeChar c := by
  rw [bytes, String.singleton_eq_ofList, String.toByteArray_ofList, List.utf8Encode_singleton,
    List.toList_data_toByteArray]

theorem utf8Size_of_plain {c : Char} (h : c.toNat < 128) : c.utf8Size = 1 :=
  Char.utf8Size_eq_one_iff.2 (UInt32.le_iff_toNat_le.2 (Nat.le_of_lt_succ h))

theorem utf8EncodeChar_of_plain {c : Char} (h : c.toNat < 128) :
    ∃ b, String.utf8EncodeChar c = [b] ∧ isAscii b = true := by
  refine ⟨_, String.utf8EncodeChar_eq_singleton (utf8Size_of_plain h), ?_⟩
  have hb : c.val.toUInt8.toNat < 128 := by
    rw [UInt32.toNat_toUInt8]
    exact Nat.lt_of_le_of_lt (Nat.mod_le _ _) h
  simpa [isAscii, UInt8.lt_iff_toNat_lt] using hb

theorem utf8EncodeChar_of_beyond {c : Char} (h : 128 ≤ c.toNat) :
    ∃ b bs, String.utf8EncodeChar c = b :: bs ∧ isAscii b = false := by
  have hv : c.val.toNat = c.toNat := rfl
  have hfirst : ∀ {n : Nat}, 128 ≤ n % 256 → isAscii (UInt8.ofNat n) = false := by
    intro n hn
    simpa [isAscii, UInt8.le_iff_toNat_le] using hn
  unfold String.utf8EncodeChar
  dsimp only
  split
  · omega
  · split
    · exact ⟨_, _, rfl, hfirst (by omega)⟩
    · split
      · exact ⟨_, _, rfl, hfirst (by omega)⟩
      · exact ⟨_, _, rfl, hfirst (by omega)⟩

theorem all_isAscii_iff (text : String) : (bytes text).all isAscii = true ↔ Plain text := by
  obtain ⟨cs, rfl⟩ : ∃ cs, text = String.ofList cs := ⟨text.toList, (String.ofList_toList).symm⟩
  induction cs with
  | nil => simp [Plain]
  | cons c cs ih =>
    rw [String.ofList_cons, bytes_append, List.all_append, Bool.and_eq_true, ih, plain_append,
      bytes_singleton]
    refine and_congr_left fun _ => ?_
    by_cases hc : c.toNat < 128
    · obtain ⟨b, hb, ha⟩ := utf8EncodeChar_of_plain hc
      simp [hb, ha, Plain, hc]
    · obtain ⟨b, bs, hb, ha⟩ := utf8EncodeChar_of_beyond (Nat.le_of_not_lt hc)
      simp [hb, ha, Plain, hc]

theorem firstNonAscii?_beyond {lead : String} {c : Char} (hl : Plain lead) (hc : 128 ≤ c.toNat)
    (trail : String) :
    firstNonAscii? (bytes (lead ++ String.singleton c ++ trail)) = some lead.utf8ByteSize := by
  obtain ⟨b, bs, hb, ha⟩ := utf8EncodeChar_of_beyond hc
  have hnone : (bytes lead).findIdx? (fun b => !isAscii b) = none := by
    rw [List.findIdx?_eq_none_iff]
    simpa using (all_isAscii_iff lead).2 hl
  rw [bytes_append, bytes_append, bytes_singleton, hb, firstNonAscii?, List.append_assoc,
    List.findIdx?_append, hnone, List.cons_append, List.findIdx?_cons, ha]
  simp [length_bytes]

theorem exists_beyond {text : String} (h : ¬ Plain text) :
    ∃ lead c trail, text = lead ++ String.singleton c ++ trail ∧ Plain lead ∧ 128 ≤ c.toNat := by
  cases hf : text.toList.find? fun c => decide (128 ≤ c.toNat) with
  | none =>
    refine absurd (fun c hc => ?_) h
    simpa using List.find?_eq_none.1 hf c hc
  | some c =>
    obtain ⟨hc, before, behind, hs, hbefore⟩ := List.find?_eq_some_iff_append.1 hf
    refine ⟨String.ofList before, c, String.ofList behind, ?_, ?_, by simpa using hc⟩
    · apply String.toList_inj.1
      simp [hs]
    · intro d hd
      rw [String.toList_ofList] at hd
      simpa using hbefore d hd

end Understudy.Text
