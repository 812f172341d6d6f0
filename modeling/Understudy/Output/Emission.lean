import Understudy.Content.Fragments
import Understudy.Failure

/-!
# Emitting a content

The fragments are encoded and written one after the other as the walk reaches
them. The first fragment that cannot be encoded or written ends the emission,
and what was written before it stays written.
-/

set_option autoImplicit false

namespace Understudy

abbrev Writer (σ : Type) := List UInt8 → EStateM Cause σ Unit

namespace Content

variable {σ : Type}

def emitText (encoding : Encoding) (write : Writer σ) : Visitor Failure σ := fun text =>
  match encoding.encode text with
  | .error offset => throw (.notEncodable encoding offset)
  | .ok bytes => (write bytes).adaptExcept .notWritten

def emit (encoding : Encoding) (write : Writer σ) (c : Content) : EStateM Failure σ Unit :=
  c.walk (emitText encoding write)

def keepAll : Writer (Array UInt8) := fun bytes kept => .ok () (kept ++ bytes)

def emitted (c : Content) : List UInt8 :=
  match c.emit .utf8 keepAll #[] with
  | .ok _ bytes => bytes.toList
  | .error _ bytes => bytes.toList

end Content

end Understudy
