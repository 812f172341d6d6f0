import Understudy.Output.Emission

/-!
# A buffer before a writer

Small writes are gathered until the buffer is full; a write as large as the
buffer passes it by. What the writer below has got and what is still pending
make up, in this order, all that was written.
-/

set_option autoImplicit false

namespace Understudy

structure Buffered (σ : Type) where
  pending : Array UInt8
  below : σ

namespace Buffered

variable {σ : Type}

def capacity : Nat := 8192

def flush (write : Writer σ) : EStateM Cause (Buffered σ) Unit := fun b =>
  if b.pending.isEmpty then .ok () b
  else match write b.pending.toList b.below with
    | .ok () below => .ok () ⟨#[], below⟩
    | .error cause below => .error cause ⟨b.pending, below⟩

def makeRoom (write : Writer σ) (count : Nat) : EStateM Cause (Buffered σ) Unit := fun b =>
  if capacity < b.pending.size + count then flush write b else .ok () b

def deliver (write : Writer σ) : Writer (Buffered σ) := fun bytes b =>
  if capacity ≤ bytes.length then
    match write bytes b.below with
    | .ok () below => .ok () { b with below }
    | .error cause below => .error cause { b with below }
  else .ok () { b with pending := b.pending ++ bytes }

def writeAll (write : Writer σ) : Writer (Buffered σ) := fun bytes => do
  makeRoom write bytes.length
  deliver write bytes

end Buffered

end Understudy
