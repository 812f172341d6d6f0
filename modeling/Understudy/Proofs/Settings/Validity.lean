import Mathlib.Data.List.Nodup
import Understudy.Settings.Basic

/-!
# Settings that are valid

Settings pass their check when nothing is wrong with them (`invalid?_eq_none`), and are
otherwise refused for the first fault in the order of the check.
-/

set_option autoImplicit false

namespace Understudy.Settings

structure Valid (s : Settings) : Prop where
  named : Text.isAllBlank s.moduleName = false
  staffed : s.jobs ≠ some 0
  distinct : (s.types.map (·.name)).Nodup

/-- The message of the first reason to refuse settings. A repeated name is the first that
is among the names before it. -/
inductive FirstFault (s : Settings) : String → Prop
  | noModule : Text.isAllBlank s.moduleName = true → FirstFault s "\x60module\x60 must be set"
  | noJobs : Text.isAllBlank s.moduleName = false → s.jobs = some 0 →
      FirstFault s "\x60jobs\x60 must be at least 1"
  | repeated {before after : List String} {name : String} :
      Text.isAllBlank s.moduleName = false → s.jobs ≠ some 0 →
      s.types.map (·.name) = before ++ name :: after → before.Nodup → name ∈ before →
      FirstFault s ("type \x60" ++ name ++ "\x60 is declared more than once")

theorem firstRepeated?_eq_none {seen names : List String} :
    firstRepeated? seen names = none ↔ names.Nodup ∧ ∀ name ∈ names, name ∉ seen := by
  induction names generalizing seen with
  | nil => simp [firstRepeated?]
  | cons name rest ih =>
    rw [firstRepeated?]
    by_cases h : name ∈ seen
    · simp [h]
    · rw [if_neg h, ih]
      simp only [List.nodup_cons, List.mem_cons, forall_eq_or_imp, not_or]
      constructor
      · rintro ⟨hr, hs⟩
        exact ⟨⟨fun hm => (hs name hm).1 rfl, hr⟩, h, fun other ho => (hs other ho).2⟩
      · rintro ⟨⟨hm, hr⟩, -, hs⟩
        exact ⟨hr, fun other ho => ⟨fun he => hm (he ▸ ho), hs other ho⟩⟩

theorem firstRepeated?_eq_some {seen names : List String} {name : String}
    (h : firstRepeated? seen names = some name) :
    ∃ before after, names = before ++ name :: after ∧ before.Nodup ∧
      (∀ earlier ∈ before, earlier ∉ seen) ∧ (name ∈ before ∨ name ∈ seen) := by
  induction names generalizing seen with
  | nil => cases h
  | cons first rest ih =>
    rw [firstRepeated?] at h
    by_cases hf : first ∈ seen
    · rw [if_pos hf] at h
      obtain rfl := Option.some.inj h
      exact ⟨[], rest, rfl, List.nodup_nil, by simp, .inr hf⟩
    · rw [if_neg hf] at h
      obtain ⟨before, after, rfl, hd, hs, hm⟩ := ih h
      have hfirst : first ∉ before := fun hb => hs first hb (by simp)
      refine ⟨first :: before, after, rfl, List.nodup_cons.2 ⟨hfirst, hd⟩, ?_, ?_⟩
      · intro earlier he
        rcases List.mem_cons.1 he with rfl | he
        · exact hf
        · exact fun hseen => hs earlier he (List.mem_cons_of_mem _ hseen)
      · rcases hm with hm | hm
        · exact .inl (List.mem_cons_of_mem _ hm)
        · rcases List.mem_cons.1 hm with rfl | hm
          · exact .inl (by simp)
          · exact .inr hm

theorem invalid?_eq_none {s : Settings} : s.invalid? = none ↔ s.Valid := by
  unfold invalid?
  constructor
  · intro h
    by_cases hm : Text.isAllBlank s.moduleName = true
    · rw [if_pos hm] at h
      cases h
    · by_cases hj : s.jobs = some 0
      · rw [if_neg hm, if_pos hj] at h
        cases h
      · rw [if_neg hm, if_neg hj, Option.map_eq_none_iff] at h
        exact ⟨by simpa using hm, hj, (firstRepeated?_eq_none.1 h).1⟩
  · intro h
    rw [if_neg (by simp [h.named]), if_neg h.staffed, Option.map_eq_none_iff]
    exact firstRepeated?_eq_none.2 ⟨h.distinct, by simp⟩

instance : DecidablePred Valid := fun s => decidable_of_iff (s.invalid? = none) invalid?_eq_none

theorem firstFault_of_invalid? {s : Settings} {reason : Invalid} (h : s.invalid? = some reason) :
    s.FirstFault reason.message := by
  unfold invalid? at h
  by_cases hm : Text.isAllBlank s.moduleName = true
  · rw [if_pos hm] at h
    obtain rfl := Option.some.inj h
    exact .noModule hm
  · have hmodule : Text.isAllBlank s.moduleName = false := by simpa using hm
    by_cases hj : s.jobs = some 0
    · rw [if_neg hm, if_pos hj] at h
      obtain rfl := Option.some.inj h
      exact .noJobs hmodule hj
    · rw [if_neg hm, if_neg hj] at h
      obtain ⟨name, hr, rfl⟩ := Option.map_eq_some_iff.1 h
      obtain ⟨before, after, hnames, hd, -, hname⟩ := firstRepeated?_eq_some hr
      exact .repeated hmodule hj hnames hd (by simpa using hname)

end Understudy.Settings
