import Understudy.Text.Bytes
import Understudy.Text.Choice

/-!
# Encodings

UTF-8 holds every text. ASCII holds the texts whose bytes are all below 128, and
then as the same bytes; any other text is refused at its first byte that is not.
-/

set_option autoImplicit false

namespace Understudy

inductive Encoding where
  | utf8
  | ascii
  deriving DecidableEq, Repr

namespace Encoding

def name : Encoding → String
  | utf8 => "utf-8"
  | ascii => "ascii"

def choice : Text.Choice Encoding := ⟨[("utf8", utf8), ("ascii", ascii)]⟩

/-- The bytes of a text, or the offset of the first byte that cannot be written. -/
def encode (encoding : Encoding) (text : String) : Except Nat (List UInt8) :=
  match encoding with
  | utf8 => .ok (Text.bytes text)
  | ascii =>
    match Text.firstNonAscii? (Text.bytes text) with
    | none => .ok (Text.bytes text)
    | some offset => .error offset

end Encoding

end Understudy
