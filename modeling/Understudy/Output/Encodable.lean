import Understudy.Output.Encoding

/-!
# How far an encoding reaches

Fragments are encoded one by one, up to the first that the encoding refuses.
`reach` is the bytes before that fragment and `refusal?` the offset at which it
is refused, both said of the list alone and without a writer.
-/

set_option autoImplicit false

namespace Understudy.Encoding

def accepts : Encoding → String → Bool
  | utf8, _ => true
  | ascii, text => (Text.bytes text).all Text.isAscii

/-- The bytes of the fragments before the first one that is refused. -/
def reach (encoding : Encoding) (fragments : List String) : List UInt8 :=
  (fragments.takeWhile encoding.accepts).flatMap Text.bytes

/-- The offset of the first refused byte, in the first fragment that is refused. -/
def refusal? (encoding : Encoding) (fragments : List String) : Option Nat :=
  (fragments.find? fun text => !encoding.accepts text).bind fun text =>
    Text.firstNonAscii? (Text.bytes text)

theorem firstNonAscii?_eq_none {text : String} :
    Text.firstNonAscii? (Text.bytes text) = none ↔ ascii.accepts text = true := by
  simp [Text.firstNonAscii?, accepts, List.findIdx?_eq_none_iff]

theorem encode_of_accepts {encoding : Encoding} {text : String} (h : encoding.accepts text = true) :
    encoding.encode text = .ok (Text.bytes text) := by
  cases encoding with
  | utf8 => rfl
  | ascii => simp [encode, firstNonAscii?_eq_none.2 h]

theorem encode_of_not_accepts {encoding : Encoding} {text : String}
    (h : encoding.accepts text = false) :
    ∃ offset, Text.firstNonAscii? (Text.bytes text) = some offset ∧
      encoding.encode text = .error offset := by
  cases encoding with
  | utf8 => simp [accepts] at h
  | ascii =>
    cases hf : Text.firstNonAscii? (Text.bytes text) with
    | none => simp [firstNonAscii?_eq_none.1 hf] at h
    | some offset => exact ⟨offset, rfl, by simp [encode, hf]⟩

end Understudy.Encoding
