import Understudy.Proofs.Files.Filling
import Understudy.Proofs.Files.Temporary

/-!
# What an atomic write preserves

Wherever an atomic write fails, it has added no more than directories above its
path, and where it succeeds only the entry that its path names is another one
(`atomicWrite_spares`). The directories come first and stay (`Grown`); after them
a failure undoes all that was done (`attempt_spares`).
-/

set_option autoImplicit false

namespace Understudy.FileSystem

/-- What is found at a location has stayed, or it is a directory that one of the
paths named when nothing was there. -/
def Spared (above : List String) (fs later : FileSystem) (loc : Location) : Prop :=
  later.lookup loc = fs.lookup loc ∨
    fs.lookup loc = none ∧ (∃ mode, later.lookup loc = some (.directory mode)) ∧
      ∃ path ∈ above, fs.Aim path loc

structure Grown (above : List String) (fs later : FileSystem) : Prop where
  here_eq : later.here = fs.here
  tags_eq : later.tags = fs.tags
  spared : ∀ loc, Spared above fs later loc

section Growing

variable {above : List String} {fs later : FileSystem}

theorem grown_refl (above : List String) (fs : FileSystem) : Grown above fs fs :=
  ⟨rfl, rfl, fun _ => .inl rfl⟩

theorem spared_of_lookup_eq {last : FileSystem} {loc : Location} (h : Spared above fs later loc)
    (hl : last.lookup loc = later.lookup loc) : Spared above fs last loc := by
  unfold Spared
  rw [hl]
  exact h

theorem within_of_grown (h : Grown above fs later) : Within later fs where
  here_eq := h.here_eq
  directory loc mode hl := by
    rcases h.spared loc with he | ⟨hn, -⟩
    · exact .inr ⟨mode, he ▸ hl⟩
    · exact .inl hn
  link loc target hl := by
    rcases h.spared loc with he | ⟨-, ⟨mode, hd⟩, -⟩
    · rw [← he, hl]
    · simp [hd] at hl

theorem grown_mono {more : List String} (h : Grown above fs later)
    (hm : ∀ path ∈ above, ∀ loc, fs.Aim path loc → path ∈ more) : Grown more fs later where
  here_eq := h.here_eq
  tags_eq := h.tags_eq
  spared loc := by
    rcases h.spared loc with he | ⟨hn, hd, path, hp, ha⟩
    · exact .inl he
    · exact .inr ⟨hn, hd, path, hm path hp loc ha, ha⟩

theorem makeDirectory_grown {path : String} (h : Grown above fs later) (hp : path ∈ above) :
    Grown above fs (after (makeDirectory path later)) := by
  cases hm : makeDirectory path later with
  | error cause last =>
    obtain rfl := makeDirectory_error hm
    exact h
  | ok u last =>
    obtain ⟨loc, mode, hv, rfl⟩ := makeDirectory_ok hm
    obtain ⟨ha, hn⟩ := vacancy_aim (within_of_grown h) hv
    refine ⟨h.here_eq, h.tags_eq, fun other => ?_⟩
    by_cases ho : other = loc
    · subst ho
      have hfs : fs.lookup other = none := by
        rcases h.spared other with he | ⟨hf, -⟩
        · rw [← he, hn]
        · exact hf
      have hd := lookup_place_self later (.directory mode) (ne_nil_of_none hn)
      exact .inr ⟨hfs, ⟨mode, hd⟩, path, hp, ha⟩
    · have hl := lookup_place_of_ne later (.directory mode) ho
      exact spared_of_lookup_eq (h.spared other) hl

theorem after_settle (path : String) (result : EStateM.Result Cause FileSystem Unit) :
    after (makeChain.settle path result) = after result := by
  cases result with
  | ok u last => rfl
  | error cause last =>
    rw [makeChain.settle]
    split
    · rfl
    · rfl

theorem after_makeChain_cons (path : String) (rest : List String) (fs : FileSystem) :
    after (makeChain (path :: rest) fs) = after (makeDirectory path fs) ∨
      ∃ mid, mid = after (makeChain rest fs) ∧
        (after (makeChain (path :: rest) fs) = mid ∨
          after (makeChain (path :: rest) fs) = after (makeDirectory path mid)) := by
  generalize hc : makeChain (path :: rest) fs = result
  rw [makeChain] at hc
  dsimp only at hc
  split at hc
  · rename_i hm
    exact .inl (by rw [← hc, hm])
  · rename_i mid hm
    obtain rfl := makeDirectory_error hm
    refine .inr ⟨_, rfl, ?_⟩
    split at hc
    · rename_i hr
      exact .inl (by rw [← hc, hr])
    · rename_i hr
      rw [← hc, hr]
      exact .inr (after_settle path _)
  · exact .inl (by rw [← hc, after_settle])

theorem makeChain_grown {paths : List String} (h : Grown above fs later)
    (hp : ∀ path ∈ paths, path ∈ above) : Grown above fs (after (makeChain paths later)) := by
  induction paths with
  | nil => exact h
  | cons path rest ih =>
    have hfirst : path ∈ above := hp path (by simp)
    have hrest := ih fun other ho => hp other (by simp [ho])
    rcases after_makeChain_cons path rest later with he | ⟨mid, rfl, he | he⟩
    · rw [he]
      exact makeDirectory_grown h hfirst
    · rw [he]
      exact hrest
    · rw [he]
      exact makeDirectory_grown hrest hfirst

theorem mem_above_of_aim {path other : String} {loc : Location}
    (h : other ∈ Path.ancestors (Path.directory path)) (ha : fs.Aim other loc) :
    other ∈ (Path.ancestors path).tail := by
  rcases Path.ancestors_directory path with hd | hd
  · have hdot : Path.ancestors "." = ["."] := by decide
    rw [hd, hdot, List.mem_singleton] at h
    obtain ⟨init, name, dir, hn, ht, -⟩ := ha
    have hr : (Path.route ".").names = [] ++ ["."] := by decide
    rw [h, hr] at hn
    obtain ⟨-, he⟩ := List.append_inj' hn rfl
    obtain rfl := List.singleton_inj.1 he
    simp [turn?] at ht
  · rwa [hd] at h

theorem makeDirectories_grown (path : String) (fs : FileSystem) :
    Grown (Path.ancestors path).tail fs (after (makeDirectories (Path.directory path) fs)) :=
  grown_mono (makeChain_grown (grown_refl _ fs) fun _ hp => hp)
    fun _ hp _ ha => mem_above_of_aim hp ha

end Growing

section Replacing

variable {path : String} {encoding : Encoding} {c : Content} {fs later : FileSystem}
  {loc : Location}

/-- A temporary file for the path has been created and has got what can be written. -/
def Filled (path : String) (encoding : Encoding) (c : Content) (fs : FileSystem) (loc : Location)
    (later : FileSystem) : Prop :=
  ∃ tag created, createNew (Path.directory path) (temporaryName (temporaryStem path) tag) fs =
      .ok loc created ∧
    Appends loc (encoding.reach c.fragments) created later

/-- The ways in which an atomic write can go once its directories are there. -/
inductive Attempt (path : String) (encoding : Encoding) (c : Content) (fs : FileSystem) :
    EStateM.Result Failure FileSystem Unit → Prop
  | uncreated {cause : Cause} :
      Attempt path encoding c fs (.error (.noSink (Path.directory path) cause) fs)
  | refused {loc : Location} {filled : FileSystem} {offset : Nat} :
      Filled path encoding c fs loc filled → encoding.refusal? c.fragments = some offset →
      Attempt path encoding c fs (.error (.notEncodable encoding offset) (filled.remove loc))
  | unmoved {loc : Location} {filled : FileSystem} {cause : Cause} :
      Filled path encoding c fs loc filled → encoding.refusal? c.fragments = none →
      rename loc path (copyMode path loc filled) = .error cause (copyMode path loc filled) →
      Attempt path encoding c fs
        (.error (.notReplaced path cause) ((copyMode path loc filled).remove loc))
  | moved {loc : Location} {filled last : FileSystem} :
      Filled path encoding c fs loc filled → encoding.refusal? c.fragments = none →
      rename loc path (copyMode path loc filled) = .ok () last →
      Attempt path encoding c fs (.ok () last)

theorem writeAtomic_attempt (path : String) (encoding : Encoding) (c : Content) (fs : FileSystem) :
    Attempt path encoding c fs (writeAtomic path encoding c fs) := by
  unfold writeAtomic
  generalize maxTries = tries
  cases hc : createTemporary (Path.directory path) (temporaryStem path) tries 0 fs with
  | error cause later =>
    obtain rfl := createTemporary_error hc
    simp only [bind, EStateM.bind, EStateM.adaptExcept, hc]
    exact .uncreated
  | ok loc created =>
    obtain ⟨tag, hn⟩ := createTemporary_ok hc
    obtain ⟨filled, hf, ha⟩ := fill_file loc encoding c created
    have hfilled : Filled path encoding c fs loc filled := ⟨tag, created, hn, ha⟩
    simp only [bind, EStateM.bind, EStateM.adaptExcept, hc, onFailure, hf, emissionEnd]
    cases hr : encoding.refusal? c.fragments with
    | some offset => exact .refused hfilled hr
    | none =>
      have hmode : (modify (copyMode path loc) : Write PUnit) filled =
          .ok () (copyMode path loc filled) := rfl
      simp only [hmode]
      cases hm : rename loc path (copyMode path loc filled) with
      | error cause last =>
        obtain rfl := rename_error hm
        exact .unmoved hfilled hr hm
      | ok u last => exact .moved hfilled hr hm

theorem lookup_remove_temporary (ho : OnlyAt loc fs later) (hn : fs.lookup loc = none)
    (other : Location) : (later.remove loc).lookup other = fs.lookup other := by
  by_cases h : other = loc
  · rw [h, hn]
    exact lookup_remove_self later (ne_nil_of_none hn)
  · rw [lookup_remove_of_ne later h]
    exact ho.lookup_eq other h

theorem within_of_onlyAt {origin : FileSystem} {bytes : List UInt8} {mode : Nat}
    (hw : Within fs origin) (ho : OnlyAt loc fs later)
    (hf : later.lookup loc = some (.file bytes mode)) : Within later origin where
  here_eq := ho.here_eq.trans hw.here_eq
  directory other mode' hd := by
    have hne : other ≠ loc := by
      rintro rfl
      simp [hf] at hd
    exact hw.directory other mode' (ho.lookup_eq other hne ▸ hd)
  link other target hl := by
    have hne : other ≠ loc := by
      rintro rfl
      simp [hf] at hl
    exact hw.link other target (ho.lookup_eq other hne ▸ hl)

theorem filled_frame (h : Filled path encoding c fs loc later) :
    Temporary path loc ∧ fs.lookup loc = none ∧ OnlyAt loc fs later ∧
      later.lookup loc = some (.file (encoding.reach c.fragments) newFileMode) := by
  obtain ⟨tag, created, hc, ha⟩ := h
  obtain ⟨ht, hn, ho, hf⟩ := createNew_temporary (slash_not_mem_tag tag) hc
  obtain ⟨ho', hl⟩ := appends_frame ha
  exact ⟨ht, hn, onlyAt_trans ho ho', hl [] newFileMode hf⟩

theorem rename_replaces {origin : FileSystem} {entry : Entry} (hw : Within fs origin)
    (he : fs.lookup loc = some entry) (hloc : loc ≠ []) (ht : Temporary path loc)
    (h : rename loc path fs = .ok () later) :
    ∃ dest, origin.Aim path dest ∧ dest ≠ loc ∧ later.lookup dest = some entry ∧
      later.lookup loc = none ∧ later.here = fs.here ∧
      ∀ other, other ≠ dest → other ≠ loc → later.lookup other = fs.lookup other := by
  obtain ⟨dir, name, found, entry', htarget, -, he', rfl⟩ := rename_ok h
  obtain rfl := Option.some.inj (he.symm.trans he')
  obtain ⟨ha, -⟩ := aim_of_target hw htarget
  have hne : name :: dir ≠ loc := by
    rintro rfl
    exact not_temporary_of_aim ha ht
  refine ⟨name :: dir, ha, hne, lookup_place_self _ entry (List.cons_ne_nil name dir), ?_, rfl, ?_⟩
  · rw [lookup_place_of_ne _ entry hne.symm]
    exact lookup_remove_self fs hloc
  · intro other hd hl
    rw [lookup_place_of_ne _ entry hd, lookup_remove_of_ne fs hl]

theorem attempt_spares {origin : FileSystem} {result : EStateM.Result Failure FileSystem Unit}
    (hw : Within fs origin) (h : Attempt path encoding c fs result) :
    match result with
    | .error _ later => ∀ loc, later.lookup loc = fs.lookup loc
    | .ok _ later => ∃ dest mode, origin.Aim path dest ∧
        later.lookup dest = some (.file (Text.bytes c.text) mode) ∧
        ∀ loc, loc ≠ dest → later.lookup loc = fs.lookup loc := by
  cases h with
  | uncreated => exact fun _ => rfl
  | refused hf _ =>
    obtain ⟨-, hn, ho, -⟩ := filled_frame hf
    exact lookup_remove_temporary ho hn
  | @unmoved loc filled _ hf _ _ =>
    obtain ⟨-, hn, ho, -⟩ := filled_frame hf
    exact lookup_remove_temporary (onlyAt_trans ho (onlyAt_copyMode path loc filled)) hn
  | @moved loc filled last hf hr hm =>
    obtain ⟨ht, hn, ho, hl⟩ := filled_frame hf
    have hready := lookup_copyMode_file path hl
    have hr' := onlyAt_trans ho (onlyAt_copyMode path loc filled)
    obtain ⟨dest, ha, -, hd, hgone, -, hrest⟩ :=
      rename_replaces (within_of_onlyAt hw hr' hready) hready (ne_nil_of_none hn) ht hm
    rw [Encoding.reach_eq_bytes hr] at hd
    refine ⟨dest, _, ha, hd, fun other ho' => ?_⟩
    by_cases h : other = loc
    · rw [h, hgone, hn]
    · rw [hrest other ho' h, hr'.lookup_eq other h]

/-- After a failure all entries are spared, and after a success all but the one that
the path names, which is a file with the whole text. -/
structure Spares (path : String) (c : Content) (fs : FileSystem)
    (result : EStateM.Result Failure FileSystem Unit) : Prop where
  failed : ∀ failure later, result = .error failure later →
    ∀ loc, Spared (Path.ancestors path).tail fs later loc
  succeeded : ∀ later, result = .ok () later → ∃ dest mode, fs.Aim path dest ∧
    later.lookup dest = some (.file (Text.bytes c.text) mode) ∧
    ∀ loc, loc ≠ dest → Spared (Path.ancestors path).tail fs later loc

theorem spares_of_attempt {made : FileSystem}
    {result : EStateM.Result Failure FileSystem Unit}
    (hg : Grown (Path.ancestors path).tail fs made) (h : Attempt path encoding c made result) :
    Spares path c fs result := by
  have hs := attempt_spares (within_of_grown hg) h
  constructor
  · rintro failure later rfl loc
    exact spared_of_lookup_eq (hg.spared loc) (hs loc)
  · rintro later rfl
    obtain ⟨dest, mode, haim, hd, hrest⟩ := hs
    refine ⟨dest, mode, haim, hd, fun loc hne => ?_⟩
    exact spared_of_lookup_eq (hg.spared loc) (hrest loc hne)

/-- The ways in which a whole atomic write can go. -/
inductive AtomicWrite (path : String) (encoding : Encoding) (c : Content) (fs : FileSystem) :
    EStateM.Result Failure FileSystem Unit → Prop
  | unmade {cause : Cause} {made : FileSystem} :
      makeDirectories (Path.directory path) fs = .error cause made →
      AtomicWrite path encoding c fs (.error (.noSink (Path.directory path) cause) made)
  | made {made : FileSystem} {result : EStateM.Result Failure FileSystem Unit} :
      makeDirectories (Path.directory path) fs = .ok () made →
      Attempt path encoding c made result → AtomicWrite path encoding c fs result

theorem write_atomicWrite (path : String) (encoding : Encoding) (c : Content) (fs : FileSystem) :
    AtomicWrite path encoding c fs (write path c { mode := .atomic, encoding := encoding } fs) := by
  unfold write
  cases hm : makeDirectories (Path.directory path) fs with
  | error cause made =>
    simp only [bind, EStateM.bind, EStateM.adaptExcept, hm]
    exact .unmade hm
  | ok u made =>
    simp only [bind, EStateM.bind, EStateM.adaptExcept, hm]
    exact .made hm (writeAtomic_attempt path encoding c made)

theorem atomicWrite_spares {result : EStateM.Result Failure FileSystem Unit}
    (h : AtomicWrite path encoding c fs result) : Spares path c fs result := by
  have hg := makeDirectories_grown path fs
  cases h with
  | unmade hm =>
    rw [hm] at hg
    constructor
    · rintro failure later he
      obtain ⟨-, rfl⟩ := EStateM.Result.error.inj he
      exact hg.spared
    · intro later he
      cases he
  | made hm ha =>
    rw [hm] at hg
    exact spares_of_attempt hg ha

end Replacing

end Understudy.FileSystem
