import Mathlib.Control.Monad.Basic
import Understudy.Proofs.Files.Delivery

/-!
# Room for a temporary file

An atomic write puts a second entry beside the file, under a longer name than that of
the file. Where a direct write goes through, that is all an atomic one needs
(`atomic_follows_direct`): the path of the temporary file goes the way of the path
itself, but for dots, and the renaming meets nothing new.
-/

set_option autoImplicit false

namespace Understudy.FileSystem

/-- The path of the working directory leads to it from the root, and past no link. -/
def Anchored (fs : FileSystem) : Prop :=
  fs.find .keep 0 [] false (Path.route (Path.join fs.herePath ".")).names = .ok (.directory fs.here)

def temporaryPath (fs : FileSystem) (path : String) (tag : Tag) : String :=
  Path.join fs.herePath (Path.join (Path.directory path) (temporaryName (temporaryStem path) tag))

/-- A temporary file can be created beside the entry that a path names. It is created by its
path from the root, whether the path itself starts there or not. -/
structure Room (fs : FileSystem) (path : String) : Prop where
  writable : ∀ dest, fs.destination? path = some dest → fs.grants .write dest.tail = true
  free : ∀ dest, fs.destination? path = some dest → ∃ n < maxTries,
    fs.lookup (temporaryName (temporaryStem path) (fs.tags n) :: dest.tail) = none
  short : (temporaryName (temporaryStem path) (fs.tags 0)).utf8ByteSize ≤ maxName
  reachable : badPath? (fs.temporaryPath path (fs.tags 0)) = none
  anchored : Path.isRooted path = true ∨ fs.Anchored

section Names

variable {path name other before : String}

theorem size_temporaryName (stem : String) (tag : Tag) :
    (temporaryName stem tag).utf8ByteSize = stem.utf8ByteSize + 10 := by
  rw [temporaryName, String.utf8ByteSize_append, String.utf8ByteSize_append, size_tag]
  rfl

theorem turn?_of_size (dir : Location) (h : 2 < name.utf8ByteSize) : turn? dir name = none := by
  refine turn?_eq_none.2 ⟨?_, ?_, ?_⟩
  all_goals
    rintro rfl
    exact absurd h (by decide)

theorem turn?_temporaryName (dir : Location) (stem : String) (tag : Tag) :
    turn? dir (temporaryName stem tag) = none := by
  apply turn?_of_size
  rw [size_temporaryName]
  omega

theorem slash_not_mem_temporaryName (path : String) (tag : Tag) :
    '/' ∉ (temporaryName (temporaryStem path) tag).toList :=
  slash_not_mem_temporary path (slash_not_mem_tag tag)

theorem badPath?_eq_none : badPath? path = none ↔
    '\x00' ∉ path.toList ∧ path ≠ "" ∧ path.utf8ByteSize < maxPath := by
  unfold badPath?
  by_cases hz : '\x00' ∈ path.toList
  · simp [hz]
  by_cases he : path = ""
  · simp [he]
  by_cases hl : maxPath ≤ path.utf8ByteSize
  · simp [hz, he, hl]
  · simp [hz, he, hl, Nat.lt_of_not_le hl]

theorem badPath?_of_append (h : badPath? (before ++ path) = none) (hne : path ≠ "") :
    badPath? path = none := by
  obtain ⟨hz, -, hl⟩ := badPath?_eq_none.1 h
  rw [String.toList_append, List.mem_append, not_or] at hz
  rw [String.utf8ByteSize_append] at hl
  exact badPath?_eq_none.2 ⟨hz.2, hne, by omega⟩

theorem badPath?_temporaryName {stem : String} {tag : Tag} (tag' : Tag)
    (h : badPath? (before ++ temporaryName stem tag) = none) :
    badPath? (before ++ temporaryName stem tag') = none := by
  obtain ⟨hz, -, hl⟩ := badPath?_eq_none.1 h
  simp only [temporaryName, String.toList_append, List.mem_append, not_or] at hz
  rw [String.utf8ByteSize_append, size_temporaryName] at hl
  refine badPath?_eq_none.2 ⟨?_, ?_, ?_⟩
  · simp only [temporaryName, String.toList_append, List.mem_append, not_or]
    exact ⟨hz.1, ⟨hz.2.1.1, not_mem_tag tag' (by decide)⟩, hz.2.2⟩
  · intro he
    have hsize := congrArg String.utf8ByteSize he
    rw [String.utf8ByteSize_append, size_temporaryName, String.utf8ByteSize_empty] at hsize
    omega
  · rw [String.utf8ByteSize_append, size_temporaryName]
    exact hl

end Names

section Origins

variable {fs : FileSystem} {dir goal : Location} {slash : Bool} {front names : List String}
  {path : String}

/-- A walk that ends at a directory and has used no link can be the start of any other. -/
theorem find_past (hn : names ≠ [])
    (h : fs.find .keep 0 dir slash (front ++ ["."]) = .ok (.directory goal)) (ending : Ending)
    (links : Nat) (slash' : Bool) :
    fs.find ending links dir slash' (front ++ names) = fs.find ending links goal slash' names := by
  induction front generalizing dir with
  | nil =>
    rw [List.nil_append] at h
    cases hg : fs.grants .search dir with
    | false =>
      rw [find_eq, findVia_closed (by decide) hg] at h
      cases h
    | true =>
      have ht : turn? dir "." = some dir := rfl
      rw [find_eq, findVia_turn hg ht] at h
      obtain rfl := Place.directory.inj (Except.ok.inj h)
      rfl
  | cons name front ih =>
    rw [List.cons_append] at h ⊢
    by_cases hne : name = ""
    · subst hne
      rw [find_eq, findVia, ← find_eq] at h ⊢
      exact ih h
    cases hg : fs.grants .search dir with
    | false =>
      rw [find_eq, findVia_closed hne hg] at h
      cases h
    | true =>
      cases ht : turn? dir name with
      | some dir' =>
        rw [find_eq, findVia_turn hg ht, ← find_eq] at h ⊢
        exact ih h
      | none =>
        rw [find_eq, findVia_inner hg ht (by simp)] at h
        rw [find_eq, findVia_inner hg ht (by simp [hn])]
        split at h
        · cases h
        · cases h
        · rw [← find_eq] at h ⊢
          exact ih h
        · cases h
        · cases h

theorem isRooted_herePath (fs : FileSystem) : Path.isRooted fs.herePath = true := by
  rw [herePath, Path.isRooted_append (by decide)]
  decide

theorem resolve_from_root (ha : Path.isRooted path = true ∨ fs.Anchored)
    (hn : (Path.route path).names ≠ []) (hb : badPath? (Path.join fs.herePath path) = none)
    (ending : Ending) : fs.resolve ending (Path.join fs.herePath path) = fs.resolve ending path := by
  by_cases hr : Path.isRooted path = true
  · rw [Path.join, if_pos (.inl hr)]
  rw [Bool.not_eq_true] at hr
  have hanchored := ha.resolve_left (by simp [hr])
  have hne : path ≠ "" := by
    rintro rfl
    exact hn (by decide)
  obtain ⟨hrooted, hnames, hslash⟩ := Path.route_join fs.herePath hr hne
  obtain ⟨before, hbefore⟩ := Path.join_append fs.herePath path
  have hb' : badPath? path = none := badPath?_of_append (hbefore ▸ hb) hne
  have hhere : (Path.route (Path.join fs.herePath ".")).names =
      (Path.route fs.herePath).names ++ ["."] :=
    (Path.join_route fs.herePath (by decide) (by decide)).2.1
  rw [Anchored, hhere] at hanchored
  have hstart : (Path.route (Path.join fs.herePath path)).start fs.here = [] := by
    rw [Path.Route.start, hrooted]
    exact if_pos (isRooted_herePath fs)
  have hstart' : (Path.route path).start fs.here = fs.here := by
    rw [Path.Route.start]
    exact if_neg (by simp [Path.route, hr])
  have hsteps : (Path.route (Path.join fs.herePath path)).steps ending =
      (Path.route fs.herePath).names ++ (Path.route path).steps ending := by
    unfold Path.Route.steps
    rw [hslash, hnames]
    split <;> simp
  have hsteps' : (Path.route path).steps ending ≠ [] := by
    unfold Path.Route.steps
    split <;> simp [hn]
  unfold resolve
  rw [hb, hb']
  simp only [hstart, hstart', hsteps, Path.Route.openSlash, hslash]
  exact find_past hsteps' hanchored ending maxLinks _

end Origins

section Siblings

variable {path name : String} {fs : FileSystem} {dir : Location}

theorem reachable_temporary (hroom : Room fs path) (tag : Tag) :
    badPath? (fs.temporaryPath path tag) = none := by
  have hslash := slash_not_mem_temporaryName path
  obtain ⟨before, hbefore⟩ := Path.join_join_name fs.herePath (Path.directory path)
  have hfirst := hroom.reachable
  rw [temporaryPath, hbefore _ (hslash _)] at hfirst ⊢
  exact badPath?_temporaryName tag hfirst

/-- Where a path names an entry, the path of a temporary file names one beside it. -/
theorem resolve_temporary {tag : Tag} (hfull : badPath? (fs.temporaryPath path tag) = none)
    (ha : Path.isRooted path = true ∨ fs.Anchored)
    (hr : fs.resolve .keep path = .ok (.name dir name false)) :
    fs.resolve .keep (fs.temporaryPath path tag) =
      .ok (.name dir (temporaryName (temporaryStem path) tag) false) := by
  have hslash := slash_not_mem_temporaryName path tag
  have hturn := fun dir => turn?_temporaryName dir (temporaryStem path) tag
  have hne := (turn?_eq_none.1 (hturn dir)).1
  obtain ⟨init, hn, ht, -⟩ := resolve_finds (within_refl fs) hr
  obtain ⟨hroot, hinit⟩ := Path.directory_route hn (turn?_eq_none.1 ht).2.1
  obtain ⟨hroot', hn', hopen⟩ := Path.join_route (Path.directory path) hslash hne
  obtain ⟨-, hp⟩ := resolve_keep_iff.1 hr
  rw [← resolve_slash hr, hn] at hp
  rw [← show (Path.route (Path.join (Path.directory path) (temporaryName (temporaryStem path)
    tag))).rooted = Path.isRooted path from hroot'.trans hroot] at ha
  rw [temporaryPath, resolve_from_root ha (by simp [hn']) hfull]
  obtain ⟨before, hbefore⟩ := Path.join_append fs.herePath
    (Path.join (Path.directory path) (temporaryName (temporaryStem path) tag))
  rw [temporaryPath, hbefore] at hfull
  refine resolve_keep_iff.2 ⟨badPath?_of_append hfull (Path.join_ne_empty _ hne), ?_⟩
  rw [hopen, hn', Path.Route.start, hroot', hroot]
  exact passage_dots (List.cons_ne_nil _ _) hinit.symm (passage_sibling hturn hp)

theorem child?_of_room (hroom : Room fs path)
    (hr : fs.resolve .keep path = .ok (.name dir name false)) :
    fs.child? dir name = .ok (fs.lookup (name :: dir)) := by
  obtain ⟨init, hn, ht, -⟩ := resolve_finds (within_refl fs) hr
  obtain ⟨-, hd, hu⟩ := turn?_eq_none.1 ht
  have hstem : temporaryStem path = "." ++ name ++ "." := by
    rw [temporaryStem, Path.fileName?_of_names hn hd hu]
  have hshort := hroom.short
  rw [size_temporaryName, hstem, String.utf8ByteSize_append, String.utf8ByteSize_append] at hshort
  rw [child?, if_neg (by omega)]

theorem destination?_of_room (hroom : Room fs path)
    (hr : fs.resolve .keep path = .ok (.name dir name false)) :
    fs.destination? path = some (name :: dir) := by
  have ht : fs.target path .notFound = .ok (dir, name, false, fs.lookup (name :: dir)) :=
    target_iff.2 ⟨hr, child?_of_room hroom hr⟩
  rw [destination?, ht]

theorem createNew_temporaryName (hroom : Room fs path)
    (hr : fs.resolve .keep path = .ok (.name dir name false)) (tag : Tag) :
    let loc := temporaryName (temporaryStem path) tag :: dir
    createNew (Path.directory path) (temporaryName (temporaryStem path) tag) fs =
      match fs.lookup loc with
      | none => .ok loc (fs.place loc (.file [] newFileMode))
      | some _ => .error .alreadyExists fs := by
  intro loc
  have hshort : ¬ maxName < (temporaryName (temporaryStem path) tag).utf8ByteSize := by
    have hfirst := hroom.short
    rw [size_temporaryName] at hfirst ⊢
    omega
  have hc : fs.child? dir (temporaryName (temporaryStem path) tag) = .ok (fs.lookup loc) := by
    rw [child?, if_neg hshort]
  have ht : fs.target (fs.temporaryPath path tag) .alreadyExists = .ok (dir, _, false, _) :=
    target_iff.2 ⟨resolve_temporary (reachable_temporary hroom tag) hroom.anchored hr, hc⟩
  have hw := hroom.writable _ (destination?_of_room hroom hr)
  rw [List.tail_cons] at hw
  unfold temporaryPath at ht
  rw [createNew_eq, vacancy, ht]
  cases fs.lookup loc with
  | none => simp [hw, loc]
  | some entry => rfl

theorem createTemporary_free {directory stem : String}
    (hc : ∀ tag, createNew directory (temporaryName stem tag) fs =
      match fs.lookup (temporaryName stem tag :: dir) with
      | none => .ok (temporaryName stem tag :: dir)
          (fs.place (temporaryName stem tag :: dir) (.file [] newFileMode))
      | some _ => .error .alreadyExists fs)
    {tries n : Nat} (hf : ∃ m, n ≤ m ∧ m < n + tries ∧
      fs.lookup (temporaryName stem (fs.tags m) :: dir) = none) :
    ∃ loc created, createTemporary directory stem tries n fs = .ok loc created := by
  induction tries generalizing n with
  | zero =>
    obtain ⟨m, hle, hlt, -⟩ := hf
    omega
  | succ tries ih =>
    have hn := hc (fs.tags n)
    rw [createTemporary_succ, orIfTaken]
    cases hl : fs.lookup (temporaryName stem (fs.tags n) :: dir) with
    | none =>
      rw [hl] at hn
      rw [hn]
      exact ⟨_, _, rfl⟩
    | some entry =>
      rw [hl] at hn
      rw [hn]
      obtain ⟨m, hle, hlt, hm⟩ := hf
      have hne : m ≠ n := by
        rintro rfl
        simp [hl] at hm
      exact ih ⟨m, by omega, by omega, hm⟩

end Siblings

section Following

variable {path : String} {encoding : Encoding} {c : Content} {fs : FileSystem} {loc : Location}

theorem accepted_of_end {ts : List String} {later : FileSystem}
    (h : emissionEnd encoding ts fs = .ok () later) : encoding.refusal? ts = none := by
  unfold emissionEnd at h
  split at h
  · assumption
  · cases h

theorem accepted_of_fill {handle : Handle} {later : FileSystem}
    (h : fill handle encoding c fs = .ok () later) : encoding.refusal? c.fragments = none := by
  cases handle with
  | file loc =>
    obtain ⟨filled, hf, -⟩ := fill_file loc encoding c fs
    exact accepted_of_end (hf.symm.trans h)
  | device kind =>
    cases kind with
    | null => exact accepted_of_end ((fill_null encoding c fs).symm.trans h)
    | full => exact (fill_full h).1

theorem rename_of_target {name : String} {dir : Location} {found : Option Entry} {entry : Entry}
    (ht : fs.target path .resourceBusy = .ok (dir, name, false, found))
    (hd : ∀ mode, found ≠ some (.directory mode)) (hl : fs.lookup loc = some entry) :
    rename loc path fs = .ok () ((fs.remove loc).place (name :: dir) entry) := by
  unfold rename
  rw [ht]
  cases found with
  | none => simp [hl]
  | some old =>
    cases old with
    | directory mode => exact absurd rfl (hd mode)
    | _ => simp [hl]

/-- What is opened for writing through a path is no directory, and neither is what the
path itself names. -/
theorem resolve_keep_of_opened {last : String} {goal : Location} {found : Option Entry}
    {handle : Handle} {opened : FileSystem}
    (hr : fs.resolve .create path = .ok (.name goal last false))
    (hc : fs.child? goal last = .ok found) (ho : Opened fs (last :: goal) found handle opened) :
    ∃ dir name, fs.resolve .keep path = .ok (.name dir name false) ∧
      ∀ mode, fs.lookup (name :: dir) ≠ some (.directory mode) := by
  have hopen := (resolve_follow hr).1
  obtain ⟨named, hn, hcont⟩ := resolve_keep (.inl (by decide)) hr
  cases hcont with
  | stay =>
    refine ⟨goal, last, hn, ?_⟩
    rw [lookup_of_child? hc]
    cases ho <;> simp
  | @onto dir name target slash _ _ hlink _ =>
    obtain rfl : slash = false := (resolve_slash hn).trans hopen
    exact ⟨dir, name, hn, by simp [hlink]⟩

/-- Once the temporary file is there, only the encoding and the renaming can fail. -/
theorem writeAtomic_of_created {created : FileSystem}
    (hc : createTemporary (Path.directory path) (temporaryStem path) maxTries 0 fs =
      .ok loc created)
    (ha : encoding.refusal? c.fragments = none)
    (hm : ∀ filled, Filled path encoding c fs loc filled →
      ∃ later, rename loc path (copyMode path loc filled) = .ok () later) :
    ∃ later, writeAtomic path encoding c fs = .ok () later := by
  obtain ⟨tag, hn⟩ := createTemporary_ok hc
  obtain ⟨filled, hf, hwritten⟩ := fill_file loc encoding c created
  obtain ⟨later, hrenamed⟩ := hm filled ⟨tag, created, hn, hwritten⟩
  rw [emissionEnd, ha] at hf
  have hmode : (modify (copyMode path loc) : Write PUnit) filled =
      .ok () (copyMode path loc filled) := rfl
  refine ⟨later, ?_⟩
  simp only [writeAtomic, bind, EStateM.bind, EStateM.adaptExcept, hc, onFailure, hf, hmode,
    hrenamed]

/-- Where a direct write goes through, an atomic one does so too if there is room for
its temporary file. -/
theorem atomic_follows_direct {direct : FileSystem} (hs : Standing fs)
    (hroom : Room (after (makeDirectories (Path.directory path) fs)) path)
    (hd : write path c { mode := .direct, encoding := encoding } fs = .ok () direct) :
    ∃ atomic, write path c { mode := .atomic, encoding := encoding } fs = .ok () atomic := by
  obtain ⟨made, hm, hdirect⟩ := write_ok hd
  have hmade := makeChain_standing hs (Path.ancestors (Path.directory path))
  rw [← makeDirectories, hm] at hmade
  rw [hm] at hroom
  change Standing made at hmade
  change Room made path at hroom
  obtain ⟨handle, opened, ho, hfill⟩ := writeDirect_ok hdirect
  obtain ⟨goal, last, found, hr, hc, hopened⟩ := openForWriting_ok ho
  obtain ⟨dir, name, hkeep, hplain⟩ := resolve_keep_of_opened hr hc hopened
  have hfree := hroom.free _ (destination?_of_room hroom hkeep)
  obtain ⟨n, hlt, hn⟩ := hfree
  have htried : ∃ m, 0 ≤ m ∧ m < 0 + maxTries ∧
      made.lookup (temporaryName (temporaryStem path) (made.tags m) :: dir) = none :=
    ⟨n, Nat.zero_le n, by omega, hn⟩
  obtain ⟨loc, created, hcreated⟩ :=
    createTemporary_free (createNew_temporaryName hroom hkeep) htried
  obtain ⟨later, hw⟩ := writeAtomic_of_created hcreated (accepted_of_fill hfill) fun filled hf => by
    obtain ⟨htemp, hnone, hat, hl⟩ := filled_frame hf
    have hready := lookup_copyMode_file path hl
    have hcopied := onlyAt_trans hat (onlyAt_copyMode path loc filled)
    have hk : Keeps made (copyMode path loc filled) :=
      keeps_of_onlyAt hcopied (by simp [hnone]) (by simp [hnone])
    have ht : made.target path .resourceBusy = .ok (dir, name, false, _) :=
      target_iff.2 ⟨hkeep, child?_of_room hroom hkeep⟩
    have hne : name :: dir ≠ loc := by
      rintro rfl
      exact not_temporary_of_aim (aim_of_target (within_refl _) ht).1 htemp
    have ht' := target_keeps hk hmade ht (hcopied.lookup_eq _ hne) .resourceBusy
    exact ⟨_, rename_of_target ht' hplain hready⟩
  refine ⟨later, ?_⟩
  simp only [write, bind, EStateM.bind, EStateM.adaptExcept, hm, hw]

end Following

def otherTag : Tag := ⟨"b2B3b4", by decide, by decide⟩

/-- A directory with a temporary file in it that was left behind. -/
def littered (mode : Nat) : FileSystem where
  entries := [(["d"], .directory mode), (["f", "d"], .file [113] 0o644),
    ([".f.aaaaaa.tmp", "d"], .file [] 0o644)]
  tags := fun n => if n = 0 then default else otherTag

theorem littered_standing (mode : Nat) : (littered mode).Standing where
  here := directoryAt_root (littered mode)
  grounded := by
    apply grounded_of_entries
    intro e he
    simp only [littered, List.mem_cons, List.not_mem_nil, or_false] at he
    rcases he with rfl | rfl | rfl
    · exact directoryAt_root (littered mode)
    · exact ⟨mode, rfl⟩
    · exact ⟨mode, rfl⟩

/-- The next temporary name is taken where the first is not free. -/
theorem second_name_gives_room :
    (littered 0o755).Standing ∧
      Room (after (makeDirectories (Path.directory "d/f") (littered 0o755))) "d/f" ∧
      (littered 0o755).lookup [temporaryName (temporaryStem "d/f") ((littered 0o755).tags 0), "d"] ≠
        none ∧
      ∃ direct atomic,
        write "d/f" (.leaf "w") { mode := .direct, encoding := .utf8 } (littered 0o755) =
          .ok () direct ∧
        write "d/f" (.leaf "w") { mode := .atomic, encoding := .utf8 } (littered 0o755) =
          .ok () atomic := by
  have hmade : makeDirectories (Path.directory "d/f") (littered 0o755) = .ok () (littered 0o755) :=
    makeDirectories_of_isDirectory (show _ = ["d"] by decide) (by decide)
      (by decide)
  have hdest : (littered 0o755).destination? "d/f" = some ["f", "d"] := by decide
  have hroom : Room (littered 0o755) "d/f" := by
    constructor
    · intro dest h
      obtain rfl := Option.some.inj (hdest.symm.trans h)
      decide
    · intro dest h
      obtain rfl := Option.some.inj (hdest.symm.trans h)
      exact ⟨1, by decide, by decide⟩
    · decide
    · decide
    · exact .inr (by unfold Anchored; decide)
  have hwritten : statusAfter? "d/f" (write "d/f" (.leaf "w")
      { mode := .direct, encoding := .utf8 } (littered 0o755)) = some (.file [119] 0o644) := by
    decide
  obtain ⟨direct, hd, -⟩ := statusAfter?_eq_some hwritten
  have hafter : Room (after (makeDirectories (Path.directory "d/f") (littered 0o755))) "d/f" := by
    rw [hmade]
    exact hroom
  obtain ⟨atomic, ha⟩ := atomic_follows_direct (littered_standing 0o755) hafter hd
  exact ⟨littered_standing 0o755, hafter, by decide, direct, atomic, hd, ha⟩

end Understudy.FileSystem
