import Understudy.Output.Emission
import Understudy.Output.Encodable

/-!
# How far an emission gets

Fragment by fragment: what is reached and what is refused of a list, in terms of
its first fragment and the rest. When nothing is refused, the whole text is
reached (`reach_eq_bytes`); what is refused is refused at the first byte of the
whole text that is not ASCII (`firstNonAscii?_of_refusal`).
-/

set_option autoImplicit false

namespace Understudy

namespace Encoding

variable {encoding : Encoding} {t : String} {ts : List String}

theorem reach_cons_of_accepts (h : encoding.accepts t = true) :
    encoding.reach (t :: ts) = Text.bytes t ++ encoding.reach ts := by
  simp [reach, h]

theorem reach_cons_of_not_accepts (h : encoding.accepts t = false) :
    encoding.reach (t :: ts) = [] := by
  simp [reach, h]

theorem refusal?_cons_of_accepts (h : encoding.accepts t = true) :
    encoding.refusal? (t :: ts) = encoding.refusal? ts := by
  simp [refusal?, h]

theorem refusal?_cons_of_not_accepts (h : encoding.accepts t = false) :
    encoding.refusal? (t :: ts) = Text.firstNonAscii? (Text.bytes t) := by
  simp [refusal?, h]

theorem refusal?_eq_none : encoding.refusal? ts = none ↔ ∀ t ∈ ts, encoding.accepts t = true := by
  induction ts with
  | nil => simp [refusal?]
  | cons t ts ih =>
    cases h : encoding.accepts t with
    | true => simp [refusal?_cons_of_accepts h, ih, h]
    | false =>
      obtain ⟨offset, ho, -⟩ := encode_of_not_accepts h
      simp [refusal?_cons_of_not_accepts h, ho, h]

theorem reach_eq_bytes (h : encoding.refusal? ts = none) :
    encoding.reach ts = Text.bytes (String.join ts) := by
  induction ts with
  | nil => rfl
  | cons t ts ih =>
    have ht := refusal?_eq_none.1 h t (by simp)
    rw [refusal?_cons_of_accepts ht] at h
    rw [reach_cons_of_accepts ht, ih h]
    simp

theorem eq_ascii_of_refusal {offset : Nat} (h : encoding.refusal? ts = some offset) :
    encoding = ascii := by
  cases encoding with
  | utf8 =>
    have hnone : utf8.refusal? ts = none := refusal?_eq_none.2 fun _ _ => rfl
    simp [hnone] at h
  | ascii => rfl

theorem firstNonAscii?_of_refusal {offset : Nat} (h : encoding.refusal? ts = some offset) :
    Text.firstNonAscii? (Text.bytes (String.join ts)) =
      some ((encoding.reach ts).length + offset) := by
  obtain rfl := eq_ascii_of_refusal h
  induction ts with
  | nil => simp [refusal?] at h
  | cons t ts ih =>
    rw [String.join_cons, Text.bytes_append, Text.firstNonAscii?, List.findIdx?_append]
    cases ha : ascii.accepts t with
    | true =>
      rw [refusal?_cons_of_accepts ha] at h
      have hnone := firstNonAscii?_eq_none.2 ha
      have hrest := ih h
      rw [Text.firstNonAscii?] at hnone hrest
      rw [hnone, hrest, reach_cons_of_accepts ha]
      simp only [Option.none_or, Option.map_some, List.length_append]
      congr 1
      omega
    | false =>
      rw [refusal?_cons_of_not_accepts ha, Text.firstNonAscii?] at h
      rw [h, reach_cons_of_not_accepts ha]
      simp

end Encoding

/-- The end of an emission: the first refusal, if there is one. -/
def emissionEnd {σ : Type} (encoding : Encoding) (ts : List String) (s : σ) :
    EStateM.Result Failure σ Unit :=
  match encoding.refusal? ts with
  | none => .ok () s
  | some offset => .error (.notEncodable encoding offset) s

namespace Content

variable {σ : Type} {encoding : Encoding} {write : Writer σ} {t : String} {ts : List String}

theorem visitAll_emitText_of_accepts (h : encoding.accepts t = true) (s : σ) :
    visitAll (emitText encoding write) (t :: ts) s =
      match write (Text.bytes t) s with
      | .ok () s => visitAll (emitText encoding write) ts s
      | .error cause s => .error (.notWritten cause) s := by
  have ht : emitText encoding write t = (write (Text.bytes t)).adaptExcept .notWritten := by
    rw [emitText, Encoding.encode_of_accepts h]
  simp only [visitAll, ht, bind, EStateM.bind, EStateM.adaptExcept]
  cases write (Text.bytes t) s <;> rfl

theorem visitAll_emitText_of_not_accepts (h : encoding.accepts t = false) (s : σ) :
    visitAll (emitText encoding write) (t :: ts) s = emissionEnd encoding (t :: ts) s := by
  obtain ⟨offset, ho, he⟩ := Encoding.encode_of_not_accepts h
  have ht : emitText encoding write t s = .error (.notEncodable encoding offset) s := by
    rw [emitText, he]
    rfl
  rw [emissionEnd, Encoding.refusal?_cons_of_not_accepts h, ho]
  simp only [visitAll, bind, EStateM.bind, ht]

theorem emissionEnd_of_accepts (h : encoding.accepts t = true) (s : σ) :
    emissionEnd encoding (t :: ts) s = emissionEnd encoding ts s := by
  rw [emissionEnd, Encoding.refusal?_cons_of_accepts h, ← emissionEnd]

end Content

end Understudy
