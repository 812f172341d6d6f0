import Understudy.Proofs.Files.Remaking
import Understudy.Proofs.Files.Room

/-!
# No room for a temporary file

A write in place needs nothing but its file. An atomic one fails beside it where the
directory takes no further entry, where all temporary names are taken, where the name
leaves none for a longer one (`onlyDirect_of_long_name`), and where the directory is
not reached from the root.
-/

set_option autoImplicit false

namespace Understudy.FileSystem

/-- A write in place goes through, and an atomic one finds no place for its temporary file. -/
def OnlyDirect (fs : FileSystem) (path : String) (cause : Cause) : Prop :=
  fs.Standing ∧ ∃ direct later,
    write path (.leaf "w") { mode := .direct } fs = .ok () direct ∧
    write path (.leaf "w") { mode := .atomic } fs =
      .error (.noSink (Path.directory path) cause) later

section Refusals

variable {fs : FileSystem} {directory stem path : String} {cause : Cause}

theorem onlyDirect_of_runs {entry : Entry} (hs : fs.Standing)
    (hd : statusAfter? path (write path (.leaf "w") { mode := .direct } fs) = some entry)
    (ha : failure? (write path (.leaf "w") { mode := .atomic } fs) =
      some (.noSink (Path.directory path) cause)) : OnlyDirect fs path cause := by
  obtain ⟨direct, hdirect, -⟩ := statusAfter?_eq_some hd
  obtain ⟨later, hlater⟩ := failure?_eq_some ha
  exact ⟨hs, direct, later, hdirect, hlater⟩

theorem onlyDirect_of_uncreated {direct : FileSystem} (hs : fs.Standing)
    (hm : makeDirectories (Path.directory path) fs = .ok () fs)
    (hd : write path (.leaf "w") { mode := .direct } fs = .ok () direct)
    (hc : createTemporary (Path.directory path) (temporaryStem path) maxTries 0 fs =
      .error cause fs) : OnlyDirect fs path cause := by
  refine ⟨hs, direct, fs, hd, ?_⟩
  simp only [write, writeAtomic, bind, EStateM.bind, EStateM.adaptExcept, hm, hc]

theorem createTemporary_taken
    (h : ∀ n, createNew directory (temporaryName stem (fs.tags n)) fs = .error .alreadyExists fs)
    (tries n : Nat) : createTemporary directory stem tries n fs = .error .alreadyExists fs := by
  induction tries generalizing n with
  | zero => rfl
  | succ tries ih =>
    rw [createTemporary_succ, orIfTaken, h n]
    exact ih (n + 1)

theorem createTemporary_refused {n : Nat} (hc : cause ≠ .alreadyExists)
    (h : createNew directory (temporaryName stem (fs.tags n)) fs = .error cause fs) (tries : Nat) :
    createTemporary directory stem (tries + 1) n fs = .error cause fs := by
  rw [createTemporary_succ, orIfTaken, h]
  cases cause <;> first | rfl | exact absurd rfl hc

end Refusals

section Crowded

/-- The state in which every name that is tried is the one that is taken. -/
def crowded : FileSystem := { littered 0o755 with tags := default }

theorem crowded_onlyDirect : OnlyDirect crowded "d/f" .alreadyExists := by
  have hs : crowded.Standing := ⟨directoryAt_root crowded, (littered_standing 0o755).grounded⟩
  have hmade : makeDirectories (Path.directory "d/f") crowded = .ok () crowded :=
    makeDirectories_of_isDirectory (show _ = ["d"] by decide) (by decide) (by decide)
  have hwritten : statusAfter? "d/f" (write "d/f" (.leaf "w") { mode := .direct } crowded) =
      some (.file [119] 0o644) := by decide
  obtain ⟨direct, hd, -⟩ := statusAfter?_eq_some hwritten
  have hv : crowded.vacancy (crowded.temporaryPath "d/f" default) = .error .alreadyExists := by
    decide
  have htaken : ∀ n, createNew (Path.directory "d/f") (temporaryName (temporaryStem "d/f")
      (crowded.tags n)) crowded = .error .alreadyExists crowded := by
    intro n
    unfold temporaryPath at hv
    rw [createNew_eq, show crowded.tags n = default from rfl, hv]
  exact onlyDirect_of_uncreated hs hmade hd (createTemporary_taken htaken maxTries 0)

end Crowded

section LongNames

variable {name : String}

def bare : FileSystem where
  entries := []

theorem stem_of_name (hs : '/' ∉ name.toList) (ht : turn? [] name = none) :
    Path.directory name = "." ∧ temporaryStem name = "." ++ name ++ "." := by
  obtain ⟨hne, hd, hu⟩ := turn?_eq_none.1 ht
  have hc : Path.ancestry name = [[name]] := by
    simp [Path.ancestry, Path.pieces_of_slash_not_mem hs, Path.chain, hne]
  constructor
  · simp [Path.directory, Path.parent?, hc, Path.isRooted_of_slash_not_mem hs]
  · simp [temporaryStem, Path.fileName?, hc, hd, hu]

theorem resolve_name (hs : '/' ∉ name.toList) (ht : turn? [] name = none)
    (hb : badPath? name = none) (ending : Ending) :
    bare.resolve ending name = .ok (.name [] name false) := by
  have hslash : (Path.route name).slash = false := Path.endsInSlash_of_slash_not_mem hs
  have hnames : (Path.route name).names = [name] := by
    simp [Path.route, Path.pieces_of_slash_not_mem hs, (turn?_eq_none.1 ht).1]
  have hrooted : (Path.route name).rooted = false := Path.isRooted_of_slash_not_mem hs
  have hnone : bare.lookup [name] = none := rfl
  obtain ⟨hopen, hsteps⟩ := steps_of_open hslash ending
  rw [resolve, hb]
  dsimp only
  rw [hopen, hsteps, hnames, Path.Route.start, hrooted, find_eq]
  refine (findVia_last (show bare.grants .search [] = true by decide) ht).trans ?_
  rw [hnone]
  cases ending <;> rfl

theorem openForWriting_name (hs : '/' ∉ name.toList) (ht : turn? [] name = none)
    (hb : badPath? name = none) (hfits : name.utf8ByteSize ≤ maxName) :
    openForWriting name bare =
      .ok (.file [name]) (bare.place [name] (.file [] newFileMode)) := by
  have hchild : bare.child? [] name = .ok none := by
    rw [child?, if_neg (Nat.not_lt.2 hfits)]
    rfl
  rw [openForWriting, resolve_name hs ht hb]
  dsimp only
  rw [hchild]
  rfl

theorem temporaryPath_of_name (hd : Path.directory name = ".") (tag : Tag) :
    bare.temporaryPath name tag = "/./" ++ temporaryName (temporaryStem name) tag := by
  have hslash := slash_not_mem_temporaryName name tag
  have hinner : Path.join "." (temporaryName (temporaryStem name) tag) =
      "./" ++ temporaryName (temporaryStem name) tag := by
    rw [Path.join, if_neg (by simp [Path.isRooted_of_slash_not_mem hslash]), if_neg (by decide)]
    rfl
  have hopen : Path.isRooted ("./" ++ temporaryName (temporaryStem name) tag) = false := by
    rw [Path.isRooted_append (by decide)]
    decide
  rw [temporaryPath, hd, hinner, show bare.herePath = "/" by decide, Path.join,
    if_neg (by simp [hopen]), if_pos (by decide), ← String.append_assoc]
  rfl

/-- The temporary name of a long name is too long, and nothing before it stops the path. -/
theorem createNew_long_name (hs : '/' ∉ name.toList) (ht : turn? [] name = none)
    (hb : badPath? name = none) (hlong : maxName < name.utf8ByteSize + 12)
    (hfits : name.utf8ByteSize ≤ maxName) (tag : Tag) :
    createNew (Path.directory name) (temporaryName (temporaryStem name) tag) bare =
      .error .invalidFilename bare := by
  obtain ⟨hdir, hstem⟩ := stem_of_name hs ht
  have hsize : (temporaryName (temporaryStem name) tag).utf8ByteSize = name.utf8ByteSize + 12 := by
    have hdot : ".".utf8ByteSize = 1 := by decide
    rw [size_temporaryName, hstem, String.utf8ByteSize_append, String.utf8ByteSize_append, hdot]
    omega
  have hfull : badPath? (bare.temporaryPath name tag) = none := by
    have hzero := not_mem_tag tag (show Char.isAlphanum '\x00' = false by decide)
    have hroot : "/./".utf8ByteSize = 3 := by decide
    have hmax : maxName = 255 ∧ maxPath = 4096 := ⟨rfl, rfl⟩
    rw [temporaryPath_of_name hdir]
    refine badPath?_eq_none.2 ⟨?_, by simp, ?_⟩
    · rw [temporaryName, hstem]
      simp [(badPath?_eq_none.1 hb).1, hzero]
    · rw [String.utf8ByteSize_append, hsize, hroot]
      omega
  have hv := vacancy_of_child? (resolve_temporary hfull (.inr (by unfold Anchored; decide))
    (resolve_name hs ht hb .keep))
  rw [child?, if_pos (hsize ▸ hlong)] at hv
  unfold temporaryPath at hv
  rw [createNew_eq, hv]

/-- A name that is allowed is too long when it leaves no ten bytes and two dots for its
temporary file. -/
theorem onlyDirect_of_long_name (hs : '/' ∉ name.toList) (hz : '\x00' ∉ name.toList)
    (hlong : maxName < name.utf8ByteSize + 12) (hfits : name.utf8ByteSize ≤ maxName) :
    OnlyDirect bare name .invalidFilename := by
  have hmax : maxName = 255 ∧ maxPath = 4096 := ⟨rfl, rfl⟩
  have ht : turn? [] name = none := turn?_of_size [] (by omega)
  have hb : badPath? name = none :=
    badPath?_eq_none.2 ⟨hz, (turn?_eq_none.1 ht).1, by omega⟩
  have hmade : makeDirectories (Path.directory name) bare = .ok () bare := by
    rw [(stem_of_name hs ht).1]
    rfl
  obtain ⟨direct, hd⟩ : ∃ direct, write name (.leaf "w") { mode := .direct } bare = .ok () direct :=
    write_of_open rfl hmade (openForWriting_name hs ht hb hfits)
      (Encoding.refusal?_eq_none.2 fun _ _ => rfl)
  -- The first name that is tried is too long, and no other is tried then.
  obtain ⟨tries, htries⟩ : ∃ tries, maxTries = tries + 1 := ⟨65535, rfl⟩
  have hcreate := createNew_long_name hs ht hb hlong hfits (bare.tags 0)
  refine onlyDirect_of_uncreated (root_standing default) hmade hd ?_
  rw [htries]
  exact createTemporary_refused (by decide) hcreate tries

def letters (count : Nat) : String := String.ofList (List.replicate count 'n')

theorem onlyDirect_of_letters {count : Nat} (hlong : maxName < count + 12)
    (hfits : count ≤ maxName) : OnlyDirect bare (letters count) .invalidFilename := by
  have hn : ∀ c ∈ List.replicate count 'n', c = 'n' := fun c hc => List.eq_of_mem_replicate hc
  have hsize : (letters count).utf8ByteSize = count := by
    rw [letters, size_of_alphanumeric fun c hc => by rw [hn c hc]; decide, List.length_replicate]
  apply onlyDirect_of_long_name
  · simp [letters]
  · simp [letters]
  · rwa [hsize]
  · rwa [hsize]

end LongNames

section Hidden

def hidden : FileSystem where
  entries := [(["a"], .directory 0), (["b", "a"], .directory 0o755)]
  here := ["b", "a"]

theorem hidden_standing : hidden.Standing where
  here := ⟨0o755, by decide⟩
  grounded := by
    apply grounded_of_entries
    intro e he
    simp only [hidden, List.mem_cons, List.not_mem_nil, or_false] at he
    rcases he with rfl | rfl
    · exact directoryAt_root hidden
    · exact ⟨0, by decide⟩

end Hidden

/-- A write in place needs no room beside its file: the directory need not take another
entry, a temporary name need not be free, the name may leave none for a longer one, and the
directory may be out of reach from the root. -/
theorem direct_needs_no_room :
    OnlyDirect (littered 0o555) "d/f" .permissionDenied ∧
      OnlyDirect crowded "d/f" .alreadyExists ∧
      OnlyDirect bare (letters 250) .invalidFilename ∧
      OnlyDirect hidden "f" .permissionDenied := by
  refine ⟨?_, crowded_onlyDirect, onlyDirect_of_letters (by decide) (by decide), ?_⟩
  · exact onlyDirect_of_runs (littered_standing 0o555)
      (show _ = some (.file [119] 0o644) by decide) (by decide)
  · exact onlyDirect_of_runs hidden_standing
      (show _ = some (.file [119] 0o644) by decide) (by decide)

end Understudy.FileSystem
