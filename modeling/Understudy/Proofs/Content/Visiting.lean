import Understudy.Output.Emission
import Understudy.Proofs.Output.Reach

/-!
# Visiting a content

A walk shows a visitor the fragments from the first to the last and ends with the
first visit that fails (`walk_stops_at_first_failure`). `Run` says so of a list of
fragments, with what has been seen until then, and `noting` is the visitor that keeps a
record of it. Put together, the fragments that are shown are the text, and its bytes are
what is emitted.
-/

set_option autoImplicit false

namespace Understudy.Content

variable {ε σ : Type} {visit : Visitor ε σ} {ts seen : List String} {s : σ}
  {result : EStateM.Result ε σ Unit}

/-- A run of a visitor over fragments, with those that it has seen at its end. -/
inductive Run (visit : Visitor ε σ) :
    List String → σ → List String → EStateM.Result ε σ Unit → Prop
  | done (s : σ) : Run visit [] s [] (.ok () s)
  | failed {t : String} {ts : List String} {s last : σ} {e : ε} :
      visit t s = .error e last → Run visit (t :: ts) s [t] (.error e last)
  | visited {t : String} {ts seen : List String} {s next : σ}
      {result : EStateM.Result ε σ Unit} : visit t s = .ok () next →
      Run visit ts next seen result → Run visit (t :: ts) s (t :: seen) result

/-- Without a failure all fragments have been seen, otherwise those up to the one whose
visit has failed, and none after it. -/
def SeenUntil (visit : Visitor ε σ) (ts : List String) (s : σ) (seen : List String) :
    EStateM.Result ε σ Unit → Prop
  | .ok _ _ => seen = ts
  | .error e last => ∃ before t after mid, ts = before ++ t :: after ∧ seen = before ++ [t] ∧
      Run visit before s before (.ok () mid) ∧ visit t mid = .error e last

theorem seenUntil_of_run (h : Run visit ts s seen result) : SeenUntil visit ts s seen result := by
  induction h with
  | done s => rfl
  | @failed t ts s last e hv => exact ⟨[], t, ts, s, rfl, rfl, .done s, hv⟩
  | @visited t ts seen s next result hv _ ih =>
    cases result with
    | ok u last => exact congrArg (t :: ·) ih
    | error e last =>
      obtain ⟨before, t', after, mid, rfl, rfl, hr, hv'⟩ := ih
      exact ⟨t :: before, t', after, mid, rfl, rfl, .visited hv hr, hv'⟩

theorem prefix_of_run (h : Run visit ts s seen result) : seen <+: ts := by
  have hc := seenUntil_of_run h
  cases result with
  | ok u last => exact hc ▸ List.prefix_refl ts
  | error e last =>
    obtain ⟨before, t, after, mid, rfl, rfl, -⟩ := hc
    exact ⟨after, by simp⟩

/-- The visitor with a record of what it has been shown, the failing visit included. -/
def noting (visit : Visitor ε σ) : Visitor ε (σ × List String) := fun t s =>
  match visit t s.1 with
  | .ok () next => .ok () (next, s.2 ++ [t])
  | .error e last => .error e (last, s.2 ++ [t])

def noted (seen : List String) : EStateM.Result ε σ Unit → EStateM.Result ε (σ × List String) Unit
  | .ok () last => .ok () (last, seen)
  | .error e last => .error e (last, seen)

theorem visitAll_of_run (h : Run visit ts s seen result) : visitAll visit ts s = result := by
  induction h with
  | done s => rfl
  | failed hv => simp only [visitAll, bind, EStateM.bind, hv]
  | visited hv _ ih => simp only [visitAll, bind, EStateM.bind, hv, ih]

theorem visitAll_noting (h : Run visit ts s seen result) (before : List String) :
    visitAll (noting visit) ts (s, before) = noted (before ++ seen) result := by
  induction h generalizing before with
  | done s => simp [visitAll, noted, pure, EStateM.pure]
  | failed hv => simp only [visitAll, bind, EStateM.bind, noting, hv, noted]
  | @visited t _ _ _ _ _ hv _ ih =>
    simp only [visitAll, bind, EStateM.bind, noting, hv, ih]
    rw [List.append_assoc, List.singleton_append]

theorem exists_run (visit : Visitor ε σ) (ts : List String) (s : σ) :
    ∃ seen, Run visit ts s seen (visitAll visit ts s) := by
  induction ts generalizing s with
  | nil => exact ⟨[], .done s⟩
  | cons t ts ih =>
    cases hv : visit t s with
    | error e last =>
      have hf : Run visit (t :: ts) s [t] (.error e last) := .failed hv
      exact ⟨[t], visitAll_of_run hf ▸ hf⟩
    | ok u next =>
      obtain ⟨seen, hr⟩ := ih next
      have hn : Run visit (t :: ts) s (t :: seen) _ := .visited hv hr
      exact ⟨t :: seen, visitAll_of_run hn ▸ hn⟩

section Recording

variable {limit : Nat} {record : Array String}

theorem recordUpTo_eq (limit : Nat) (t : String) (record : Array String) :
    recordUpTo limit t record =
      if limit < record.size + 1 then .error (record.size + 1) (record.push t)
      else .ok () (record.push t) := by
  have hstep : recordUpTo limit t record =
      (if limit < (record.push t).size then throw (record.push t).size else pure ()
        : EStateM Nat (Array String) Unit) (record.push t) := rfl
  rw [hstep, Array.size_push]
  split <;> rfl

theorem run_recordUpTo_fits (h : record.size + ts.length ≤ limit) :
    Run (recordUpTo limit) ts record ts (.ok () (record ++ ts)) := by
  induction ts generalizing record with
  | nil => simpa using Run.done record
  | cons t ts ih =>
    rw [List.length_cons] at h
    have hv : recordUpTo limit t record = .ok () (record.push t) := by
      rw [recordUpTo_eq, if_neg (by omega)]
    rw [show record ++ (t :: ts) = record.push t ++ ts by simp]
    refine .visited hv (ih ?_)
    rw [Array.size_push]
    omega

theorem run_recordUpTo_exceeds {n : Nat} (h : record.size + n = limit) (hl : n < ts.length) :
    Run (recordUpTo limit) ts record (ts.take (n + 1))
      (.error (limit + 1) (record ++ ts.take (n + 1))) := by
  induction ts generalizing record n with
  | nil => simp at hl
  | cons t ts ih =>
    have hv := recordUpTo_eq limit t record
    cases n with
    | zero =>
      obtain rfl : record.size = limit := h
      rw [if_pos (Nat.lt_succ_self _)] at hv
      simpa using Run.failed hv
    | succ n =>
      rw [if_neg (by omega)] at hv
      rw [List.take_succ_cons,
        show record ++ (t :: ts.take (n + 1)) = record.push t ++ ts.take (n + 1) by simp]
      refine .visited hv (ih ?_ (Nat.lt_of_succ_lt_succ hl))
      rw [Array.size_push]
      omega

end Recording

section Shown

def showing : Visitor ε String := fun t out => .ok () (out ++ t)

theorem run_showing (ts : List String) (out : String) :
    Run (showing : Visitor ε String) ts out ts (.ok () (out ++ String.join ts)) := by
  induction ts generalizing out with
  | nil => simpa using Run.done out
  | cons t ts ih =>
    rw [String.join_cons, ← String.append_assoc]
    exact .visited rfl (ih (out ++ t))

variable {encoding : Encoding}

theorem visitAll_keepAll (encoding : Encoding) (ts : List String) (kept : Array UInt8) :
    visitAll (emitText encoding keepAll) ts kept =
      emissionEnd encoding ts (kept ++ encoding.reach ts) := by
  induction ts generalizing kept with
  | nil => simp [visitAll, emissionEnd, Encoding.refusal?, Encoding.reach, pure, EStateM.pure]
  | cons t ts ih =>
    cases h : encoding.accepts t with
    | true =>
      have hkept : kept ++ (Text.bytes t ++ encoding.reach ts) =
          kept ++ Text.bytes t ++ encoding.reach ts := by simp [← Array.toList_inj]
      rw [visitAll_emitText_of_accepts h, emissionEnd_of_accepts h,
        Encoding.reach_cons_of_accepts h, hkept]
      exact ih _
    | false =>
      rw [visitAll_emitText_of_not_accepts h, Encoding.reach_cons_of_not_accepts h,
        Array.appendList_nil]

theorem emit_keepAll (c : Content) (encoding : Encoding) (kept : Array UInt8) :
    c.emit encoding keepAll kept =
      emissionEnd encoding c.fragments (kept ++ encoding.reach c.fragments) := by
  rw [emit, walk_eq, visitAll_keepAll]

theorem emitted_eq (c : Content) : c.emitted = Text.bytes c.text := by
  have hr : Encoding.utf8.refusal? c.fragments = none := Encoding.refusal?_eq_none.2 fun _ _ => rfl
  rw [emitted, emit_keepAll, emissionEnd, hr, Encoding.reach_eq_bytes hr, ← text]
  simp

end Shown

/-- A walk is the run of the visitor over the fragments: it comes to the same result, and
what it has shown until then is all of them, or those up to the one whose visit has
failed. With the visitor that fails above a limit that is one more than the limit. The
fragments make up the text, and as far as the encoding reaches they are what is
emitted. -/
theorem walk_stops_at_first_failure (c : Content) (visit : Visitor ε σ) (s : σ) :
    (∃ seen, Run visit c.fragments s seen (c.walk visit s) ∧
      c.walk (noting visit) (s, []) = noted seen (c.walk visit s) ∧ seen <+: c.fragments ∧
      SeenUntil visit c.fragments s seen (c.walk visit s)) ∧
    (∀ limit, c.walk (recordUpTo limit) #[] =
      if limit < c.fragments.length then
        .error (limit + 1) (c.fragments.take (limit + 1)).toArray
      else .ok () c.fragments.toArray) ∧
    (∀ out, c.walk (showing : Visitor ε String) out = .ok () (out ++ c.text)) ∧
    (∀ encoding kept, c.emit encoding keepAll kept =
      emissionEnd encoding c.fragments (kept ++ encoding.reach c.fragments)) ∧
    c.emitted = Text.bytes c.text := by
  refine ⟨?_, fun limit => ?_, fun out => ?_, emit_keepAll c, emitted_eq c⟩
  · obtain ⟨seen, hr⟩ := exists_run visit c.fragments s
    rw [← walk_eq] at hr
    refine ⟨seen, hr, ?_, prefix_of_run hr, seenUntil_of_run hr⟩
    rw [walk_eq, visitAll_noting hr, List.nil_append]
  · rw [walk_eq]
    by_cases h : limit < c.fragments.length
    · rw [if_pos h, visitAll_of_run (run_recordUpTo_exceeds (Nat.zero_add limit) h)]
      simp
    · rw [if_neg h, visitAll_of_run (run_recordUpTo_fits (by simpa using h))]
      simp
  · rw [walk_eq, visitAll_of_run (run_showing c.fragments out), text]

/-- The footer of an inner group is the last that is seen. -/
example : (group [.leaf "a", .group [.leaf "b"] none (some ";")] (some "-") (some "!")).walk
    (recordUpTo 3) #[] = .error 4 #["a", "-", "b", ";"] := rfl

end Understudy.Content
