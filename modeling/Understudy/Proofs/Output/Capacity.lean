import Understudy.Output.Sink
import Understudy.Proofs.Output.Reach

/-!
# Emission into a sink of limited capacity

A sink gets the first bytes of what an encoding reaches, as many as it has room
for, in whatever chunks it takes them and however often it interrupts
(`emission_fills_sink`). `Loop` is the repetition of calls without any bound on
the interruptions, and `Emission` the emission that uses it. Only a sink that
interrupts every call can keep the loop going, so for any other sink it comes to
what `writeAll` does, which makes an interrupted call just once more.
-/

set_option autoImplicit false

namespace Understudy

namespace Sink

/-- Calls are made until all bytes are taken, and an interrupted call is made again. -/
inductive Loop : List UInt8 → Sink → EStateM.Result Cause Sink Unit → Prop
  | done (s : Sink) : Loop [] s (.ok () s)
  | interrupted {b : UInt8} {bs : List UInt8} {s s' : Sink} {r : EStateM.Result Cause Sink Unit} :
      s.offer (b :: bs) = (.interrupted, s') → Loop (b :: bs) s' r → Loop (b :: bs) s r
  | refused {b : UInt8} {bs : List UInt8} {s s' : Sink} :
      s.offer (b :: bs) = (.refused, s') → Loop (b :: bs) s (.error .storageFull s')
  | nothing {b : UInt8} {bs : List UInt8} {s s' : Sink} :
      s.offer (b :: bs) = (.took 0, s') → Loop (b :: bs) s (.error .writeZero s')
  | took {b : UInt8} {bs : List UInt8} {n : Nat} {s s' : Sink}
      {r : EStateM.Result Cause Sink Unit} :
      s.offer (b :: bs) = (.took (n + 1), s') → Loop (bs.drop n) s' r → Loop (b :: bs) s r

def taking (s : Sink) (bytes : List UInt8) (calls : Array Nat) : Sink :=
  { s with written := s.written ++ bytes, calls }

section Taking

variable (s : Sink) (bytes more : List UInt8) (calls calls' : Array Nat)

@[simp] theorem chunk_taking : (s.taking bytes calls).chunk = s.chunk := rfl

@[simp] theorem interrupt_taking : (s.taking bytes calls).interrupt = s.interrupt := rfl

@[simp] theorem zero_taking : (s.taking bytes calls).zero = s.zero := rfl

@[simp] theorem written_taking : (s.taking bytes calls).written = s.written ++ bytes := rfl

@[simp] theorem room_taking :
    (s.taking bytes calls).room = s.room.map (· - bytes.length) := by
  have hsize : (s.written ++ bytes).size = s.written.size + bytes.length := by
    rw [← Array.length_toList]
    simp
  cases h : s.capacity <;> simp [room, taking, h, hsize, Nat.sub_sub]

@[simp] theorem taking_nil : s.taking [] s.calls = s := by simp [taking]

@[simp] theorem taking_taking :
    (s.taking bytes calls).taking more calls' = s.taking (bytes ++ more) calls' := by
  have happend : s.written ++ bytes ++ more = s.written ++ (bytes ++ more) := by
    simp [← Array.toList_inj]
  simp only [taking, happend]

end Taking

section Calls

variable {s : Sink}

def share (s : Sink) (count : Nat) : Nat := atMost s.chunk (atMost s.room count)

theorem atMost_le (bound : Option Nat) (n : Nat) : atMost bound n ≤ n := by
  cases bound with
  | none => exact Nat.le_refl n
  | some m => exact Nat.min_le_left n m

theorem share_le (s : Sink) (count : Nat) :
    s.share count ≤ count ∧ ∀ room, s.room = some room → s.share count ≤ room := by
  have hchunk := atMost_le s.chunk (atMost s.room count)
  refine ⟨Nat.le_trans hchunk (atMost_le s.room count), fun room hroom => ?_⟩
  rw [hroom] at hchunk
  unfold share
  rw [hroom]
  exact Nat.le_trans hchunk (Nat.min_le_right count room)

def answer (s : Sink) (bytes : List UInt8) (calls : Array Nat) : Reply × Sink :=
  if s.room = some 0 ∧ s.zero = false then (.refused, s.taking [] calls)
  else (.took (s.share bytes.length), s.taking (bytes.take (s.share bytes.length)) calls)

theorem interrupt_answer (s : Sink) (bytes : List UInt8) (calls : Array Nat) :
    (s.answer bytes calls).2.interrupt = s.interrupt := by
  unfold answer
  split <;> rfl

theorem offer_eq (s : Sink) (bytes : List UInt8) :
    s.offer bytes =
      if 0 < s.interrupt ∧ (s.calls.size + 1) % s.interrupt = 0 then
        (.interrupted, s.taking [] (s.calls.push bytes.length))
      else s.answer bytes (s.calls.push bytes.length) := by
  simp [offer, answer, taking, share, room]

theorem consecutive_not_multiples {k n : Nat} (hk : k ≠ 1) (h : 0 < k ∧ (n + 1) % k = 0) :
    ¬ (0 < k ∧ (n + 2) % k = 0) := by
  rintro ⟨hpos, hn⟩
  have hone : k ∣ 1 := by
    have hd := Nat.dvd_sub (Nat.dvd_of_mod_eq_zero hn) (Nat.dvd_of_mod_eq_zero h.2)
    rwa [show n + 2 - (n + 1) = 1 by omega] at hd
  exact hk (Nat.dvd_one.1 hone)

theorem insist_answer (hi : s.interrupt ≠ 1) (bytes : List UInt8) :
    ∃ calls, s.insist bytes = s.answer bytes calls ∧
      (s.offer bytes = s.answer bytes calls ∨
        ∃ s', s.offer bytes = (.interrupted, s') ∧ s'.offer bytes = s.answer bytes calls) := by
  by_cases h : 0 < s.interrupt ∧ (s.calls.size + 1) % s.interrupt = 0
  · have hfirst : s.offer bytes = (.interrupted, s.taking [] (s.calls.push bytes.length)) := by
      rw [offer_eq, if_pos h]
    have hsecond := offer_eq (s.taking [] (s.calls.push bytes.length)) bytes
    rw [if_neg (by simpa [taking] using consecutive_not_multiples hi h)] at hsecond
    exact ⟨_, by rw [insist, hfirst]; exact hsecond, .inr ⟨_, hfirst, hsecond⟩⟩
  · have hfirst : s.offer bytes = s.answer bytes (s.calls.push bytes.length) := by
      rw [offer_eq, if_neg h]
    refine ⟨_, ?_, .inl hfirst⟩
    rw [insist, hfirst]
    by_cases hf : s.room = some 0 ∧ s.zero = false <;> simp [answer, hf]

theorem interrupt_offer {bytes : List UInt8} {reply : Reply} {s' : Sink}
    (h : s.offer bytes = (reply, s')) : s'.interrupt = s.interrupt := by
  have hs : s' = (s.offer bytes).2 := by rw [h]
  rw [hs, offer_eq]
  split
  · rfl
  · exact interrupt_answer s bytes _

theorem interrupt_insist {bytes : List UInt8} {reply : Reply} {s' : Sink}
    (hi : s.interrupt ≠ 1) (h : s.insist bytes = (reply, s')) : s'.interrupt = s.interrupt := by
  obtain ⟨calls, ha, -⟩ := insist_answer hi bytes
  have hs : s' = (s.answer bytes calls).2 := by rw [← ha, h]
  rw [hs, interrupt_answer]

theorem interrupt_loop {bytes : List UInt8} {r : EStateM.Result Cause Sink Unit} {s' : Sink}
    (h : Loop bytes s r) (hr : r = .ok () s') : s'.interrupt = s.interrupt := by
  induction h with
  | done s => exact congrArg interrupt (EStateM.Result.ok.inj hr).2.symm
  | interrupted ho _ ih => exact (ih hr).trans (interrupt_offer ho)
  | refused => cases hr
  | nothing => cases hr
  | took ho _ ih => exact (ih hr).trans (interrupt_offer ho)

theorem loop_insist {b : UInt8} {bs : List UInt8} {r : EStateM.Result Cause Sink Unit}
    (hi : s.interrupt ≠ 1)
    (h : ∀ s₀ : Sink, s₀.offer (b :: bs) = s.insist (b :: bs) → Loop (b :: bs) s₀ r) :
    Loop (b :: bs) s r := by
  obtain ⟨calls, ha, ho | ⟨s₁, ho, ho'⟩⟩ := insist_answer hi (b :: bs)
  · exact h s (ho.trans ha.symm)
  · exact .interrupted ho (h s₁ (ho'.trans ha.symm))

theorem loop_writeAll (hi : s.interrupt ≠ 1) (bytes : List UInt8) :
    Loop bytes s (writeAll bytes s) := by
  fun_induction writeAll bytes s with
  | case1 s => exact .done s
  | case2 s b bs s' h =>
    obtain ⟨calls, ha, -⟩ := insist_answer hi (b :: bs)
    rw [h, answer] at ha
    split at ha <;> cases (Prod.mk.inj ha).1
  | case3 s b bs s' h => exact loop_insist hi fun s₀ ho => .refused (ho.trans h)
  | case4 s b bs s' h => exact loop_insist hi fun s₀ ho => .nothing (ho.trans h)
  | case5 s b bs n s' h ih =>
    have hi' : s'.interrupt ≠ 1 := interrupt_insist hi h ▸ hi
    exact loop_insist hi fun s₀ ho => .took (ho.trans h) (ih hi')

/-- The loop comes to one end only. -/
theorem loop_unique {bytes : List UInt8} {r r' : EStateM.Result Cause Sink Unit}
    (h : Loop bytes s r) (h' : Loop bytes s r') : r = r' := by
  induction h with
  | done s =>
    cases h'
    rfl
  | interrupted ho _ ih =>
    cases h' with
    | interrupted ho' h' =>
      obtain ⟨-, rfl⟩ := Prod.mk.inj (ho.symm.trans ho')
      exact ih h'
    | _ ho' => cases ho.symm.trans ho'
  | refused ho =>
    cases h' with
    | refused ho' =>
      obtain ⟨-, rfl⟩ := Prod.mk.inj (ho.symm.trans ho')
      rfl
    | _ ho' => cases ho.symm.trans ho'
  | nothing ho =>
    cases h' with
    | nothing ho' =>
      obtain ⟨-, rfl⟩ := Prod.mk.inj (ho.symm.trans ho')
      rfl
    | _ ho' => cases ho.symm.trans ho'
  | took ho _ ih =>
    cases h' with
    | took ho' h' =>
      obtain ⟨hn, rfl⟩ := Prod.mk.inj (ho.symm.trans ho')
      obtain rfl := Nat.succ.inj (Reply.took.inj hn)
      exact ih h'
    | _ ho' => cases ho.symm.trans ho'

end Calls

section Filling

variable {s : Sink}

def fullCause (s : Sink) : Cause := if s.zero then .writeZero else .storageFull

@[simp] theorem fullCause_taking (s : Sink) (bytes : List UInt8) (calls : Array Nat) :
    (s.taking bytes calls).fullCause = s.fullCause := rfl

theorem writeAll_at_capacity (hi : s.interrupt ≠ 1) (hr : s.room = some 0) (b : UInt8)
    (bs : List UInt8) :
    ∃ calls, writeAll (b :: bs) s = .error s.fullCause (s.taking [] calls) := by
  obtain ⟨calls, ha, -⟩ := insist_answer hi (b :: bs)
  refine ⟨calls, ?_⟩
  rw [writeAll, ha, answer, fullCause]
  cases hz : s.zero with
  | false => simp [hr]
  | true =>
    have hn : s.share (b :: bs).length = 0 := by cases hc : s.chunk <;> simp [share, atMost, hr, hc]
    rw [hn, if_neg (by simp)]
    rfl

theorem writeAll_with_room (hc : s.chunk ≠ some 0) (hi : s.interrupt ≠ 1) (hr : s.room ≠ some 0)
    (b : UInt8) (bs : List UInt8) :
    ∃ n calls, n ≤ bs.length ∧ (∀ room, s.room = some room → n < room) ∧
      writeAll (b :: bs) s =
        writeAll (bs.drop n) (s.taking ((b :: bs).take (n + 1)) calls) := by
  obtain ⟨calls, ha, -⟩ := insist_answer hi (b :: bs)
  obtain ⟨n, hn⟩ : ∃ n, s.share (b :: bs).length = n + 1 := by
    apply Nat.exists_eq_add_one_of_ne_zero
    unfold share atMost
    cases hroom : s.room <;> cases hchunk : s.chunk <;> simp_all
  obtain ⟨hlength, hroom⟩ := share_le s (b :: bs).length
  rw [hn] at hlength hroom
  refine ⟨n, calls, Nat.le_of_succ_le_succ hlength, hroom, ?_⟩
  rw [writeAll, ha, answer, if_neg (fun h => hr h.1), hn]

theorem writeAll_fits (hc : s.chunk ≠ some 0) (hi : s.interrupt ≠ 1) (bytes : List UInt8)
    (h : ∀ room, s.room = some room → bytes.length ≤ room) :
    ∃ calls, writeAll bytes s = .ok () (s.taking bytes calls) := by
  induction hl : bytes.length using Nat.strongRecOn generalizing bytes s with
  | _ length ih =>
    subst hl
    cases bytes with
    | nil => exact ⟨s.calls, by simp [writeAll]⟩
    | cons b bs =>
      have hr : s.room ≠ some 0 := fun hr => by simpa using h 0 hr
      obtain ⟨n, calls, hn, -, hw⟩ := writeAll_with_room hc hi hr b bs
      have hrest : ∀ room', (s.taking ((b :: bs).take (n + 1)) calls).room = some room' →
          (bs.drop n).length ≤ room' := by
        intro room' hroom'
        rw [room_taking, Option.map_eq_some_iff] at hroom'
        obtain ⟨room, hroom, rfl⟩ := hroom'
        have hfit := h room hroom
        simp only [List.length_drop, List.length_take, List.length_cons] at hfit ⊢
        omega
      have hlt : (bs.drop n).length < (b :: bs).length := by
        simp only [List.length_drop, List.length_cons]
        omega
      obtain ⟨calls', he⟩ := ih _ hlt (s := s.taking _ calls) hc hi (bs.drop n) hrest rfl
      exact ⟨calls', by rw [hw, he]; simp⟩

theorem writeAll_overflows (hc : s.chunk ≠ some 0) (hi : s.interrupt ≠ 1) {room : Nat}
    (hr : s.room = some room) (bytes : List UInt8) (h : room < bytes.length) :
    ∃ calls, writeAll bytes s = .error s.fullCause (s.taking (bytes.take room) calls) := by
  induction hl : bytes.length using Nat.strongRecOn generalizing bytes s room with
  | _ length ih =>
    subst hl
    cases bytes with
    | nil => simp at h
    | cons b bs =>
      cases room with
      | zero => exact writeAll_at_capacity hi hr b bs
      | succ k =>
        obtain ⟨n, calls, hn, hroom, hw⟩ := writeAll_with_room hc hi (by simp [hr]) b bs
        have hk : n < k + 1 := hroom _ hr
        have hrest : (s.taking ((b :: bs).take (n + 1)) calls).room = some (k - n) := by
          rw [room_taking, hr, Option.map_some, List.length_take, List.length_cons]
          congr 1
          omega
        have hlt : (bs.drop n).length < (b :: bs).length := by
          simp only [List.length_drop, List.length_cons]
          omega
        have hover : k - n < (bs.drop n).length := by
          simp only [List.length_drop, List.length_cons] at h ⊢
          omega
        obtain ⟨calls', he⟩ := ih _ hlt (s := s.taking _ calls) hc hi hrest (bs.drop n) hover rfl
        have htake : (b :: bs).take (n + 1) ++ (bs.drop n).take (k - n) = (b :: bs).take (k + 1) := by
          rw [List.take_succ_cons, List.take_succ_cons, List.cons_append, ← List.take_add,
            Nat.add_sub_cancel' (by omega)]
        exact ⟨calls', by rw [hw, he, taking_taking, htake, fullCause_taking]⟩

end Filling

end Sink

namespace Content

open Sink

/-- Fragments encoded and written one after the other, each by the loop. -/
inductive Emission (encoding : Encoding) : List String → Sink → Option Failure × Sink → Prop
  | done (s : Sink) : Emission encoding [] s (none, s)
  | notEncodable {t : String} {ts : List String} {s : Sink} {offset : Nat} :
      encoding.encode t = .error offset →
      Emission encoding (t :: ts) s (some (.notEncodable encoding offset), s)
  | notWritten {t : String} {ts : List String} {bytes : List UInt8} {s s' : Sink} {cause : Cause} :
      encoding.encode t = .ok bytes → Loop bytes s (.error cause s') →
      Emission encoding (t :: ts) s (some (.notWritten cause), s')
  | written {t : String} {ts : List String} {bytes : List UInt8} {s s' : Sink}
      {r : Option Failure × Sink} :
      encoding.encode t = .ok bytes → Loop bytes s (.ok () s') → Emission encoding ts s' r →
      Emission encoding (t :: ts) s r

section Emission

variable {encoding : Encoding} {ts : List String} {s : Sink}

theorem emission_unique {r r' : Option Failure × Sink} (h : Emission encoding ts s r)
    (h' : Emission encoding ts s r') : r = r' := by
  induction h with
  | done s =>
    cases h'
    rfl
  | notEncodable he =>
    cases h' with
    | notEncodable he' =>
      obtain rfl := Except.error.inj (he.symm.trans he')
      rfl
    | _ he' => cases he.symm.trans he'
  | notWritten he hl =>
    cases h' with
    | notEncodable he' => cases he.symm.trans he'
    | notWritten he' hl' =>
      obtain rfl := Except.ok.inj (he.symm.trans he')
      obtain ⟨rfl, rfl⟩ := EStateM.Result.error.inj (loop_unique hl hl')
      rfl
    | written he' hl' _ =>
      obtain rfl := Except.ok.inj (he.symm.trans he')
      cases loop_unique hl hl'
  | written he hl _ ih =>
    cases h' with
    | notEncodable he' => cases he.symm.trans he'
    | notWritten he' hl' =>
      obtain rfl := Except.ok.inj (he.symm.trans he')
      cases loop_unique hl hl'
    | written he' hl' h' =>
      obtain rfl := Except.ok.inj (he.symm.trans he')
      obtain ⟨-, rfl⟩ := EStateM.Result.ok.inj (loop_unique hl hl')
      exact ih h'

def outcome : EStateM.Result Failure Sink Unit → Option Failure × Sink
  | .ok () s => (none, s)
  | .error failure s => (some failure, s)

theorem emission_visitAll (hi : s.interrupt ≠ 1) (ts : List String) :
    Emission encoding ts s (outcome (visitAll (emitText encoding writeAll) ts s)) := by
  induction ts generalizing s with
  | nil => exact .done s
  | cons t ts ih =>
    cases ha : encoding.accepts t with
    | true =>
      have hloop := loop_writeAll hi (Text.bytes t)
      rw [visitAll_emitText_of_accepts ha]
      cases hw : writeAll (Text.bytes t) s with
      | ok u s' =>
        rw [hw] at hloop
        have hi' : s'.interrupt ≠ 1 := interrupt_loop hloop rfl ▸ hi
        exact .written (Encoding.encode_of_accepts ha) hloop (ih hi')
      | error cause s' =>
        rw [hw] at hloop
        exact .notWritten (Encoding.encode_of_accepts ha) hloop
    | false =>
      obtain ⟨offset, ho, he⟩ := Encoding.encode_of_not_accepts ha
      rw [visitAll_emitText_of_not_accepts ha, emissionEnd,
        Encoding.refusal?_cons_of_not_accepts ha, ho]
      exact .notEncodable he

theorem visitAll_fits (hc : s.chunk ≠ some 0) (hi : s.interrupt ≠ 1) (ts : List String)
    (h : ∀ room, s.room = some room → (encoding.reach ts).length ≤ room) :
    ∃ calls, visitAll (emitText encoding writeAll) ts s =
      emissionEnd encoding ts (s.taking (encoding.reach ts) calls) := by
  induction ts generalizing s with
  | nil => exact ⟨s.calls, by simp [visitAll, emissionEnd, Encoding.reach, Encoding.refusal?]; rfl⟩
  | cons t ts ih =>
    cases ha : encoding.accepts t with
    | true =>
      rw [Encoding.reach_cons_of_accepts ha] at h ⊢
      simp only [List.length_append] at h
      have hfirst : ∀ room, s.room = some room → (Text.bytes t).length ≤ room :=
        fun room hr => Nat.le_of_add_right_le (h room hr)
      obtain ⟨calls, hw⟩ := writeAll_fits hc hi (Text.bytes t) hfirst
      have hrest : ∀ room', (s.taking (Text.bytes t) calls).room = some room' →
          (encoding.reach ts).length ≤ room' := by
        intro room' hroom'
        rw [room_taking, Option.map_eq_some_iff] at hroom'
        obtain ⟨room, hroom, rfl⟩ := hroom'
        have hfit := h room hroom
        omega
      obtain ⟨calls', he⟩ := ih (s := s.taking _ calls) hc hi hrest
      refine ⟨calls', ?_⟩
      rw [visitAll_emitText_of_accepts ha, hw, emissionEnd_of_accepts ha]
      simpa using he
    | false =>
      refine ⟨s.calls, ?_⟩
      rw [visitAll_emitText_of_not_accepts ha, Encoding.reach_cons_of_not_accepts ha, taking_nil]

theorem visitAll_overflows (hc : s.chunk ≠ some 0) (hi : s.interrupt ≠ 1) {room : Nat}
    (hr : s.room = some room) (ts : List String) (h : room < (encoding.reach ts).length) :
    ∃ calls, visitAll (emitText encoding writeAll) ts s =
      .error (.notWritten s.fullCause) (s.taking ((encoding.reach ts).take room) calls) := by
  induction ts generalizing s room with
  | nil => simp [Encoding.reach] at h
  | cons t ts ih =>
    cases ha : encoding.accepts t with
    | true =>
      rw [Encoding.reach_cons_of_accepts ha] at h ⊢
      rw [visitAll_emitText_of_accepts ha]
      by_cases hfirst : room < (Text.bytes t).length
      · obtain ⟨calls, hw⟩ := writeAll_overflows hc hi hr (Text.bytes t) hfirst
        exact ⟨calls, by rw [hw, List.take_append_of_le_length (Nat.le_of_lt hfirst)]⟩
      · have hfits : ∀ room', s.room = some room' → (Text.bytes t).length ≤ room' := by
          intro room' hroom'
          obtain rfl := Option.some.inj (hr.symm.trans hroom')
          omega
        obtain ⟨calls, hw⟩ := writeAll_fits hc hi (Text.bytes t) hfits
        have hrest : (s.taking (Text.bytes t) calls).room =
            some (room - (Text.bytes t).length) := by
          rw [room_taking, hr, Option.map_some]
        have hover : room - (Text.bytes t).length < (encoding.reach ts).length := by
          rw [List.length_append] at h
          omega
        obtain ⟨calls', he⟩ := ih (s := s.taking _ calls) hc hi hrest hover
        refine ⟨calls', ?_⟩
        rw [hw, List.take_append, List.take_of_length_le (by omega)]
        simpa using he
    | false => simp [Encoding.reach_cons_of_not_accepts ha] at h

theorem emitInto_eq (encoding : Encoding) (c : Content) (s : Sink) :
    c.emitInto encoding s = outcome (visitAll (emitText encoding writeAll) c.fragments s) := by
  unfold emitInto emit
  rw [walk_eq]
  split <;> simp_all [outcome]

theorem outcome_emissionEnd (ts : List String) (s : Sink) :
    outcome (emissionEnd encoding ts s) = ((encoding.refusal? ts).map (.notEncodable encoding), s) := by
  unfold emissionEnd
  cases encoding.refusal? ts <;> rfl

end Emission

section Sinks

variable (encoding : Encoding) (c : Content) {s : Sink}

theorem room_of_empty (he : s.written = #[]) : s.room = s.capacity := by
  simp [room, he]

theorem emitInto_fits (he : s.written = #[]) (hc : s.chunk ≠ some 0) (hi : s.interrupt ≠ 1)
    (h : ∀ capacity, s.capacity = some capacity →
      (encoding.reach c.fragments).length ≤ capacity) :
    (c.emitInto encoding s).1 = (encoding.refusal? c.fragments).map (.notEncodable encoding) ∧
      (c.emitInto encoding s).2.written.toList = encoding.reach c.fragments := by
  obtain ⟨calls, hv⟩ := visitAll_fits hc hi c.fragments (room_of_empty he ▸ h)
  rw [emitInto_eq, hv, outcome_emissionEnd]
  simp [he]

theorem emitInto_overflows (he : s.written = #[]) (hc : s.chunk ≠ some 0) (hi : s.interrupt ≠ 1)
    {capacity : Nat} (hs : s.capacity = some capacity)
    (h : capacity < (encoding.reach c.fragments).length) :
    (c.emitInto encoding s).1 = some (.notWritten (if s.zero then .writeZero else .storageFull)) ∧
      (c.emitInto encoding s).2.written.toList = (encoding.reach c.fragments).take capacity := by
  obtain ⟨calls, hv⟩ := visitAll_overflows hc hi ((room_of_empty he).trans hs) c.fragments h
  rw [emitInto_eq, hv]
  simp [outcome, fullCause, he]

end Sinks

/-- Emission comes to one end, however often the sink interrupts. If what the encoding
reaches has room, the sink holds it, and the emission fails only where the encoding
refuses a fragment, at the first byte of the text that is not ASCII; otherwise the
sink is full of its first bytes. Neither depends on the chunks or the interruptions. -/
theorem emission_fills_sink (encoding : Encoding) (c : Content) {s : Sink}
    (he : s.written = #[]) (hc : s.chunk ≠ some 0) (hi : s.interrupt ≠ 1) :
    let reached := encoding.reach c.fragments
    let refused := encoding.refusal? c.fragments
    (∀ r, Emission encoding c.fragments s r ↔ r = c.emitInto encoding s) ∧
    ((∀ capacity, s.capacity = some capacity → reached.length ≤ capacity) →
      (c.emitInto encoding s).1 = refused.map (.notEncodable encoding) ∧
        (c.emitInto encoding s).2.written.toList = reached) ∧
    (∀ capacity, s.capacity = some capacity → capacity < reached.length →
      (c.emitInto encoding s).1 = some (.notWritten (if s.zero then .writeZero else .storageFull)) ∧
        (c.emitInto encoding s).2.written.toList = reached.take capacity) ∧
    (refused = none ↔ ∀ t ∈ c.fragments, encoding.accepts t = true) ∧
    (∀ offset, refused = some offset →
      Text.firstNonAscii? (Text.bytes c.text) = some (reached.length + offset)) ∧
    (∀ chunk interrupt, chunk ≠ some 0 → interrupt ≠ 1 →
      let other := c.emitInto encoding { s with chunk, interrupt }
      other.1 = (c.emitInto encoding s).1 ∧
        other.2.written = (c.emitInto encoding s).2.written) := by
  intro reached refused
  refine ⟨fun r => ?_, emitInto_fits encoding c he hc hi,
    fun capacity => emitInto_overflows encoding c he hc hi, Encoding.refusal?_eq_none,
    fun offset => Encoding.firstNonAscii?_of_refusal, fun chunk interrupt hc' hi' => ?_⟩
  · have hrun : Emission encoding c.fragments s _ := emission_visitAll hi c.fragments
    rw [← emitInto_eq] at hrun
    constructor
    · intro h
      exact emission_unique h hrun
    · rintro rfl
      exact hrun
  · by_cases hfits : ∀ capacity, s.capacity = some capacity → reached.length ≤ capacity
    · obtain ⟨hf, hw⟩ := emitInto_fits encoding c he hc hi hfits
      obtain ⟨hf', hw'⟩ := emitInto_fits (s := { s with chunk, interrupt }) encoding c he hc' hi' hfits
      exact ⟨hf'.trans hf.symm, Array.toList_inj.1 (hw'.trans hw.symm)⟩
    · obtain ⟨capacity, hs, hover⟩ : ∃ capacity, s.capacity = some capacity ∧
          capacity < reached.length := by simpa using hfits
      obtain ⟨hf, hw⟩ := emitInto_overflows encoding c he hc hi hs hover
      obtain ⟨hf', hw'⟩ :=
        emitInto_overflows (s := { s with chunk, interrupt }) encoding c he hc' hi' hs hover
      exact ⟨hf'.trans hf.symm, Array.toList_inj.1 (hw'.trans hw.symm)⟩

/-- A sink that is full just before the fragment that is refused, and one that is full a
byte earlier and then takes nothing. Both interrupt every second call. -/
theorem full_sinks_are_filled :
    let c : Content := .group [.leaf "ab", .leaf "cé"] (some "-") none
    let tight : Sink := { capacity := some 3, chunk := some 2, interrupt := 2 }
    let short : Sink := { capacity := some 2, zero := true, interrupt := 2 }
    (tight.chunk ≠ some 0 ∧ tight.interrupt ≠ 1 ∧ short.chunk ≠ some 0 ∧ short.interrupt ≠ 1) ∧
    ((c.emitInto .ascii tight).1 = some (.notEncodable .ascii 1) ∧
      (c.emitInto .ascii tight).2.written.toList = Text.bytes "ab-" ∧
      Text.firstNonAscii? (Text.bytes c.text) = some 4) ∧
    ((c.emitInto .ascii short).1 = some (.notWritten .writeZero) ∧
      (c.emitInto .ascii short).2.written.toList = Text.bytes "ab") := by
  intro c tight short
  have hreach : Encoding.ascii.reach c.fragments = Text.bytes "ab-" := by decide
  have hrefused : Encoding.ascii.refusal? c.fragments = some 1 := by decide
  obtain ⟨-, fits, -, -, index, -⟩ :=
    emission_fills_sink .ascii c (s := tight) rfl (by decide) (by decide)
  obtain ⟨-, -, overflows, -⟩ :=
    emission_fills_sink .ascii c (s := short) rfl (by decide) (by decide)
  rw [hreach] at fits index overflows
  have hroom : ∀ capacity, tight.capacity = some capacity →
      (Text.bytes "ab-").length ≤ capacity := by
    rintro capacity ⟨⟩
    decide
  obtain ⟨hfailure, hwritten⟩ := fits hroom
  rw [hrefused] at hfailure
  exact ⟨by decide, ⟨hfailure, hwritten, index 1 hrefused⟩, overflows 2 rfl (by decide)⟩

end Content

end Understudy
