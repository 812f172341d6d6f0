import Understudy.Proofs.Files.Grounding
import Understudy.Proofs.Files.Stepwise

/-!
# Interleaved replacements

Any number of atomic writes to one path, whose steps come in any order and any
of which is cut off: at every moment the entry that the path names is the one of
the start or a file with the whole text of one of the writes
(`every_moment_is_whole`). The invariant (`Sound`) says of every location what
can have become of it, and of every write under way that its temporary file is
its own and holds just the bytes that it has written.
-/

set_option autoImplicit false

namespace Understudy

namespace Replacement

open FileSystem

def Call.held (c : Call) : Stage → List UInt8
  | .filling _ written => written
  | _ => c.reach

/-- What can have become of a location since the start. -/
inductive Fate (path : String) (start : FileSystem) (calls : List Call) (fs : FileSystem)
    (loc : Location) : Prop
  | kept : fs.lookup loc = start.lookup loc → Fate path start calls fs loc
  | made {mode : Nat} :
      start.lookup loc = none → ¬ start.Aim path loc →
      fs.lookup loc = some (.directory mode) → Fate path start calls fs loc
  | temporary {bytes : List UInt8} {mode : Nat} :
      start.lookup loc = none → Temporary path loc →
      fs.lookup loc = some (.file bytes mode) → Fate path start calls fs loc
  | replaced {c : Call} {entry : Entry} :
      start.Aim path loc → c ∈ calls → c.Complete entry →
      fs.lookup loc = some entry → Fate path start calls fs loc

/-- A call's temporary file is there, with the bytes that the call has written. -/
structure Owns (path : String) (start fs : FileSystem) (c : Call) : Prop where
  held : ∀ loc, c.stage.temporary? = some loc → Temporary path loc ∧ start.lookup loc = none ∧
    ∃ mode, fs.lookup loc = some (.file (c.held c.stage) mode)
  accepted : ∀ loc, c.stage = .filled loc ∨ c.stage = .durable loc → c.refusal? = none

def Apart (c d : Call) : Prop :=
  ∀ loc, c.stage.temporary? = some loc → d.stage.temporary? ≠ some loc

theorem apart_symm {c d : Call} (h : Apart c d) : Apart d c :=
  fun loc hd hc => h loc hc hd

structure Sound (path : String) (start : FileSystem) (calls : List Call) (r : Race) : Prop where
  here_eq : r.fs.here = start.here
  fates : ∀ loc, Fate path start calls r.fs loc
  owns : ∀ c ∈ r.calls, Owns path start r.fs c
  given : ∀ c ∈ r.calls, ∃ d ∈ calls, d.content = c.content ∧ d.encoding = c.encoding
  apart : r.calls.Pairwise Apart

section Fates

variable {path : String} {start fs fs' : FileSystem} {calls : List Call} {loc : Location}

theorem fate_of_lookup_eq (h : Fate path start calls fs loc)
    (hl : fs'.lookup loc = fs.lookup loc) : Fate path start calls fs' loc := by
  cases h with
  | kept hk => exact .kept (hl.trans hk)
  | made hn ha hd => exact .made hn ha (hl.trans hd)
  | temporary hn ht hf => exact .temporary hn ht (hl.trans hf)
  | replaced ha hc hw he => exact .replaced ha hc hw (hl.trans he)

theorem start_of_none (h : Fate path start calls fs loc) (hn : fs.lookup loc = none) :
    start.lookup loc = none := by
  cases h with
  | kept hk => rw [← hk, hn]
  | made h _ _ => exact h
  | temporary h _ _ => exact h
  | replaced _ _ _ he => simp [hn] at he

theorem within_of_fates (hh : fs.here = start.here)
    (hf : ∀ loc, Fate path start calls fs loc) : Within fs start where
  here_eq := hh
  directory loc mode hl := by
    cases hf loc with
    | kept hk => exact .inr ⟨mode, hk ▸ hl⟩
    | made hn _ _ => exact .inl hn
    | temporary hn _ _ => exact .inl hn
    | replaced _ _ hw he =>
      obtain ⟨-, mode', rfl⟩ := hw
      simp [hl] at he
  link loc target hl := by
    cases hf loc with
    | kept hk => exact hk ▸ hl
    | made _ _ hd => simp [hl] at hd
    | temporary _ _ hf => simp [hl] at hf
    | replaced _ _ hw he =>
      obtain ⟨-, mode', rfl⟩ := hw
      simp [hl] at he

theorem whole_of_fate (h : Fate path start calls fs loc) (ha : start.Aim path loc) :
    fs.lookup loc = start.lookup loc ∨
      ∃ c ∈ calls, ∃ entry, fs.lookup loc = some entry ∧ c.Complete entry := by
  cases h with
  | kept hk => exact .inl hk
  | made _ hna _ => exact absurd ha hna
  | temporary _ ht _ => exact absurd ht (not_temporary_of_aim ha)
  | replaced _ hc hw he => exact .inr ⟨_, hc, _, he, hw⟩

end Fates

/-- What a step of one call leaves to the others. -/
structure Tame (path : String) (start : FileSystem) (calls : List Call) (c : Call)
    (fs : FileSystem) (stage : Stage) (fs' : FileSystem) : Prop where
  here_eq : fs'.here = fs.here
  fates : ∀ loc, Fate path start calls fs' loc
  owns : Owns path start fs' { c with stage }
  others : ∀ loc bytes mode, Temporary path loc → fs.lookup loc = some (.file bytes mode) →
    c.stage.temporary? ≠ some loc → fs'.lookup loc = some (.file bytes mode)
  taken : ∀ loc, stage.temporary? = some loc →
    c.stage.temporary? = some loc ∨ fs.lookup loc = none

section Steps

variable {path : String} {start fs fs' : FileSystem} {calls : List Call} {c : Call}
  {stage : Stage} {loc : Location}

theorem held_of_owns (hc : Owns path start fs c) {before : Stage} (hs : c.stage = before)
    (hl : before.temporary? = some loc) :
    c.stage.temporary? = some loc ∧ Temporary path loc ∧ start.lookup loc = none ∧
      ∃ mode, fs.lookup loc = some (.file (c.held before) mode) := by
  subst hs
  exact ⟨hl, hc.held loc hl⟩

theorem owns_of_none (h : stage.temporary? = none) : Owns path start fs { c with stage } where
  held loc hl := by simp [h] at hl
  accepted loc hs := by rcases hs with rfl | rfl <;> simp [Stage.temporary?] at h

theorem tame_of_onlyAt (hf : ∀ loc, Fate path start calls fs loc) (ho : OnlyAt loc fs fs')
    (hm : c.stage.temporary? = some loc ∨ fs.lookup loc = none)
    (hl : Fate path start calls fs' loc) (hc : Owns path start fs' { c with stage })
    (hs : ∀ other, stage.temporary? = some other → other = loc) :
    Tame path start calls c fs stage fs' where
  here_eq := ho.here_eq
  fates other := by
    by_cases he : other = loc
    · exact he ▸ hl
    · exact fate_of_lookup_eq (hf other) (ho.lookup_eq other he)
  owns := hc
  others other bytes mode _ hfile hne := by
    have he : other ≠ loc := by
      rintro rfl
      rcases hm with hm | hm
      · exact hne hm
      · simp [hm] at hfile
    rw [ho.lookup_eq other he, hfile]
  taken other hother := hs other hother ▸ hm

theorem tame_of_file {mode : Nat} (hf : ∀ loc, Fate path start calls fs loc)
    (ho : OnlyAt loc fs fs') (hm : c.stage.temporary? = some loc ∨ fs.lookup loc = none)
    (ht : Temporary path loc) (hn : start.lookup loc = none)
    (hs : stage.temporary? = some loc)
    (hl : fs'.lookup loc = some (.file (c.held stage) mode))
    (hr : ∀ other, stage = .filled other ∨ stage = .durable other → c.refusal? = none) :
    Tame path start calls c fs stage fs' := by
  refine tame_of_onlyAt hf ho hm (.temporary hn ht hl) ⟨?_, hr⟩ ?_
  · intro other hother
    obtain rfl : loc = other := Option.some.inj (hs.symm.trans hother)
    exact ⟨ht, hn, mode, hl⟩
  · intro other hother
    exact Option.some.inj (hother.symm.trans hs)

theorem complete_reach {d : Call} {mode : Nat} (hr : c.refusal? = none)
    (hc : d.content = c.content) (he : d.encoding = c.encoding) :
    d.Complete (.file c.reach mode) := by
  have hbytes : c.reach = Text.bytes c.content.text := Encoding.reach_eq_bytes hr
  refine ⟨?_, mode, ?_⟩
  · rw [Call.refusal?, hc, he]
    exact hr
  · rw [hbytes, hc]

theorem tame_of_rename (hh : fs.here = start.here)
    (hf : ∀ loc, Fate path start calls fs loc) (hc : Owns path start fs c)
    (hgiven : ∃ d ∈ calls, d.content = c.content ∧ d.encoding = c.encoding)
    (hs : c.stage = .durable loc) (h : rename loc path fs = .ok () fs') :
    Tame path start calls c fs .ended fs' := by
  obtain ⟨hmine, ht, hn, mode, hfile⟩ := held_of_owns hc hs rfl
  obtain ⟨dest, ha, hne, hd, hgone, hhere, hrest⟩ :=
    rename_replaces (within_of_fates hh hf) hfile (ne_nil_of_file hfile) ht h
  refine ⟨hhere, fun other => ?_, owns_of_none rfl, ?_, by simp [Stage.temporary?]⟩
  · by_cases hod : other = dest
    · obtain ⟨d, hmem, hcontent, hencoding⟩ := hgiven
      have hwhole : d.Complete (.file c.reach mode) :=
        complete_reach (hc.accepted loc (.inr hs)) hcontent hencoding
      exact .replaced (hod ▸ ha) hmem hwhole (hod ▸ hd)
    by_cases hol : other = loc
    · subst hol
      exact .kept (hgone.trans hn.symm)
    · exact fate_of_lookup_eq (hf other) (hrest other hod hol)
  · intro other bytes mode' hother hfile' hmine'
    have hod : other ≠ dest := by
      rintro rfl
      exact not_temporary_of_aim ha hother
    have hol : other ≠ loc := by
      rintro rfl
      exact hmine' hmine
    rw [hrest other hod hol, hfile']

theorem step_tame (hg : start.Grounded) (hu : ".." ∉ (Path.route path).names)
    (hh : fs.here = start.here) (hf : ∀ loc, Fate path start calls fs loc)
    (hc : Owns path start fs c)
    (hgiven : ∃ d ∈ calls, d.content = c.content ∧ d.encoding = c.encoding)
    (h : Step path c (c.stage, fs) (stage, fs')) : Tame path start calls c fs stage fs' := by
  have hw := within_of_fates hh hf
  generalize hs : c.stage = before at h
  cases h with
  | makeDirectory hm hmake =>
    obtain ⟨loc, mode, hv, rfl⟩ := makeDirectory_ok hmake
    obtain ⟨ha, hn⟩ := vacancy_aim hw hv
    -- Nothing was here at the start either, so this is a directory on the way.
    have hstart := start_of_none (hf loc) hn
    have hna := not_aim_of_above hg hu (mem_above_of_aim hm ha) ha hstart
    have hd := lookup_place_self fs (.directory mode) (ne_nil_of_none hn)
    exact tame_of_onlyAt hf (onlyAt_place fs loc _) (.inr hn) (.made hstart hna hd)
      (owns_of_none rfl) (by simp [Stage.temporary?])
  | @create tag loc _ _ htag hnew =>
    obtain ⟨ht, hn, ho, hfile⟩ := createNew_temporary htag hnew
    have hstart := start_of_none (hf loc) hn
    exact tame_of_file hf ho (.inr hn) ht hstart rfl hfile (by simp)
  | @append loc written chunk _ _ _ happend =>
    obtain ⟨hmine, ht, hstart, mode, hfile⟩ := held_of_owns hc hs rfl
    obtain ⟨later, ha, ho, hgrow⟩ := append_file loc chunk fs
    obtain rfl : later = fs' := by simpa [ha] using happend
    exact tame_of_file hf ho (.inl hmine) ht hstart rfl (hgrow written mode hfile) (by simp)
  | @copyMode loc _ haccepted =>
    obtain ⟨hmine, ht, hstart, mode, hfile⟩ := held_of_owns hc hs rfl
    have hlater := lookup_copyMode_file path hfile
    exact tame_of_file hf (onlyAt_copyMode path loc fs) (.inl hmine) ht hstart rfl hlater
      fun _ _ => haccepted
  | @sync loc _ =>
    obtain ⟨hmine, ht, hstart, mode, hfile⟩ := held_of_owns hc hs rfl
    exact tame_of_file hf (onlyAt_refl loc fs) (.inl hmine) ht hstart rfl hfile
      fun _ _ => hc.accepted loc (.inl hs)
  | rename hrename => exact tame_of_rename hh hf hc hgiven hs hrename
  | cutOff =>
    exact ⟨rfl, hf, owns_of_none rfl, fun _ _ _ _ hfile _ => hfile, by simp [Stage.temporary?]⟩
  | @giveUp _ loc _ hmine =>
    obtain ⟨hown, -, hstart, mode, hfile⟩ := held_of_owns hc hs hmine
    have hgone := lookup_remove_self fs (ne_nil_of_file hfile)
    exact tame_of_onlyAt hf (onlyAt_remove fs loc) (.inl hown) (.kept (hgone.trans hstart.symm))
      (owns_of_none rfl) (by simp [Stage.temporary?])

variable {d : Call}

theorem owns_of_tame (ht : Tame path start calls c fs stage fs') (hd : Owns path start fs d)
    (ha : Apart c d) : Owns path start fs' d where
  held loc hl := by
    obtain ⟨htemp, hn, mode, hfile⟩ := hd.held loc hl
    have hne : c.stage.temporary? ≠ some loc := fun hm => ha loc hm hl
    exact ⟨htemp, hn, mode, ht.others loc _ mode htemp hfile hne⟩
  accepted := hd.accepted

theorem apart_of_tame (ht : Tame path start calls c fs stage fs') (hd : Owns path start fs d)
    (ha : Apart c d) : Apart { c with stage } d := by
  intro loc hl hm
  rcases ht.taken loc hl with ho | hn
  · exact ha loc ho hm
  · obtain ⟨-, -, mode, hfile⟩ := hd.held loc hm
    simp [hn] at hfile

end Steps

namespace Race

variable {path : String} {start : FileSystem} {calls : List Call}

theorem step_of_stage {c : Call} {s t : Stage × FileSystem} (stage : Stage)
    (h : Step path c s t) : Step path { c with stage } s t := by
  cases h with
  | makeDirectory hm hmake => exact .makeDirectory hm hmake
  | create ht hnew => exact .create ht hnew
  | append hw happend => exact .append hw happend
  | copyMode hr => exact .copyMode hr
  | sync => exact .sync
  | rename hrename => exact .rename hrename
  | cutOff => exact .cutOff
  | giveUp hl => exact .giveUp hl

theorem reached_steps (before after : List Call) {c : Call} {s t : Stage × FileSystem}
    (hs : Steps path c s t)
    (h : Reached path start calls ⟨s.2, before ++ { c with stage := s.1 } :: after⟩) :
    Reached path start calls ⟨t.2, before ++ { c with stage := t.1 } :: after⟩ := by
  induction hs with
  | nothing => exact h
  | @more t u _ hstep ih => exact .next ih (.call (step_of_stage t.1 hstep))

theorem start_sound (h : ∀ c ∈ calls, c.stage = .opening) :
    Sound path start calls ⟨start, calls⟩ where
  here_eq := rfl
  fates _ := .kept rfl
  owns c hc := by
    have ho : c.stage.temporary? = none := by rw [h c hc, Stage.temporary?]
    exact owns_of_none ho
  given c hc := ⟨c, hc, rfl, rfl⟩
  apart := by
    apply List.pairwise_of_forall_mem_list
    intro c hc d _ loc hl
    simp [h c hc, Stage.temporary?] at hl

theorem mem_middle {c d : Call} {before after : List Call} :
    d ∈ before ++ c :: after ↔ d = c ∨ d ∈ before ++ after := by
  simp only [List.mem_append, List.mem_cons]
  exact or_left_comm

theorem next_sound (hg : start.Grounded) (hu : ".." ∉ (Path.route path).names) {r r' : Race}
    (hr : Sound path start calls r) (h : Next path r r') : Sound path start calls r' := by
  obtain @⟨fs, fs', before, after, c, stage, hstep⟩ := h
  have hc : c ∈ before ++ c :: after := mem_middle.2 (.inl rfl)
  have hothers : ∀ d ∈ before ++ after, d ∈ before ++ c :: after :=
    fun d hd => mem_middle.2 (.inr hd)
  have ht := step_tame hg hu hr.here_eq hr.fates (hr.owns c hc) (hr.given c hc) hstep
  obtain ⟨hapart, hrest⟩ :=
    List.pairwise_cons.1 ((List.pairwise_middle apart_symm).1 hr.apart)
  refine ⟨ht.here_eq.trans hr.here_eq, ht.fates, ?_, ?_, ?_⟩
  · intro d hd
    rcases mem_middle.1 hd with rfl | hd
    · exact ht.owns
    · exact owns_of_tame ht (hr.owns d (hothers d hd)) (hapart d hd)
  · intro d hd
    rcases mem_middle.1 hd with rfl | hd
    · exact hr.given c hc
    · exact hr.given d (hothers d hd)
  · apply (List.pairwise_middle apart_symm).2
    apply List.pairwise_cons.2
    exact ⟨fun d hd => apart_of_tame ht (hr.owns d (hothers d hd)) (hapart d hd), hrest⟩

theorem reached_sound (hg : start.Grounded) (hu : ".." ∉ (Path.route path).names) {r : Race}
    (h : Reached path start calls r) : Sound path start calls r := by
  induction h with
  | start ho => exact start_sound ho
  | next _ hn ih => exact next_sound hg hu ih hn

/-- Wherever the path is found to lead at any moment of the race, the entry there
is at every moment the one of the start, or a file with the whole text of one of
the calls. That everything stands in a directory at the start is no more than what
every file system comes with (`built_standing`). -/
theorem every_moment_is_whole {q r : Race} {loc : Location} (hg : start.Grounded)
    (hu : ".." ∉ Path.pieces path) (hq : Reached path start calls q)
    (hr : Reached path start calls r) (hl : q.fs.destination? path = some loc) :
    r.fs.lookup loc = start.lookup loc ∨
      ∃ c ∈ calls, ∃ entry, r.fs.lookup loc = some entry ∧ c.Complete entry := by
  have hn : ".." ∉ (Path.route path).names := fun hm => hu (List.mem_filter.1 hm).1
  have hsq := reached_sound hg hn hq
  have hsr := reached_sound hg hn hr
  have ha := aim_of_destination (within_of_fates hsq.here_eq hsq.fates) hl
  exact whole_of_fate (hsr.fates loc) ha

def rivals : Race where
  fs := single
  calls := [{ content := .leaf "a", encoding := .utf8 },
    { content := .leaf "bc", encoding := .ascii }]

/-- One call has come to its end while the other has written half of its text. -/
theorem half_written_rival_is_whole : ∃ r, Reached "out" rivals.fs rivals.calls r ∧
    r.calls.map Call.stage = [.ended, .filling [".out.x.tmp"] [98]] ∧
    (r.fs.lookup ["out"] = rivals.fs.lookup ["out"] ∨
      ∃ c ∈ rivals.calls, ∃ entry, r.fs.lookup ["out"] = some entry ∧ c.Complete entry) := by
  have hg : rivals.fs.Grounded := by
    apply grounded_of_entries
    intro e he
    rw [List.mem_singleton.1 he]
    exact directoryAt_root _
  have hstart : Reached "out" rivals.fs rivals.calls rivals := .start (by decide)
  have hled : rivals.fs.destination? "out" = some ["out"] := by decide
  have hrace := reached_steps [{ content := .leaf "a", encoding := .utf8 }] [] halfWritten_steps
    hstart
  have hend := reached_steps [] _ (write_steps "out" (.leaf "a") .utf8 _) hrace
  exact ⟨_, hend, rfl, every_moment_is_whole hg (by decide) hstart hend hled⟩

end Race

end Replacement

end Understudy
