import Understudy.Output.Emission

/-!
# A sink of limited capacity

A sink takes bytes a call at a time: at most a chunk, no more than it has room
for. It may interrupt every so many calls, and at its capacity it refuses, or
takes nothing. `writeAll` repeats the calls until all bytes are taken; an
interrupted call is made again, and a sink that interrupts that call too is
given up.
-/

set_option autoImplicit false

namespace Understudy

structure Sink where
  capacity : Option Nat := none
  chunk : Option Nat := none
  /-- At capacity the sink takes nothing instead of refusing. -/
  zero : Bool := false
  /-- Every call whose number this divides is interrupted; 0 for none. -/
  interrupt : Nat := 0
  written : Array UInt8 := #[]
  calls : Array Nat := #[]

namespace Sink

inductive Reply where
  | interrupted
  | refused
  | took (count : Nat)

def atMost (bound : Option Nat) (n : Nat) : Nat := bound.elim n (min n)

def room (s : Sink) : Option Nat := s.capacity.map (· - s.written.size)

def offer (bytes : List UInt8) (s : Sink) : Reply × Sink :=
  let s := { s with calls := s.calls.push bytes.length }
  if 0 < s.interrupt ∧ s.calls.size % s.interrupt = 0 then (.interrupted, s)
  else if s.room = some 0 ∧ s.zero = false then (.refused, s)
  else
    let count := atMost s.chunk (atMost s.room bytes.length)
    (.took count, { s with written := s.written ++ bytes.take count })

/-- One call, and a second one if the first is interrupted. -/
def insist (bytes : List UInt8) (s : Sink) : Reply × Sink :=
  match s.offer bytes with
  | (.interrupted, s) => s.offer bytes
  | answered => answered

def writeAll (bytes : List UInt8) : EStateM Cause Sink Unit := fun s =>
  match bytes with
  | [] => .ok () s
  | b :: bs =>
    match s.insist (b :: bs) with
    | (.interrupted, s) => .error .interrupted s
    | (.refused, s) => .error .storageFull s
    | (.took 0, s) => .error .writeZero s
    | (.took (n + 1), s) => writeAll (bs.drop n) s
termination_by bytes.length
decreasing_by simp only [List.length_drop, List.length_cons]; omega

end Sink

namespace Content

def emitInto (encoding : Encoding) (c : Content) (s : Sink) : Option Failure × Sink :=
  match c.emit encoding Sink.writeAll s with
  | .ok _ s => (none, s)
  | .error failure s => (some failure, s)

end Content

end Understudy
