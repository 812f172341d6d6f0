import Understudy.Files.Writing

/-!
# What a step leaves alone

For each step of a write, which location it touches, what is there afterwards,
and that it changes nothing when it fails. Later proofs look only at what is
found at a location (`OnlyAt`), never at the list of entries.
-/

set_option autoImplicit false

namespace Understudy.FileSystem

def after {ε α : Type} : EStateM.Result ε FileSystem α → FileSystem
  | .ok _ fs => fs
  | .error _ fs => fs

/-- Nothing differs but what is found at one location. -/
structure OnlyAt (loc : Location) (fs later : FileSystem) : Prop where
  here_eq : later.here = fs.here
  tags_eq : later.tags = fs.tags
  lookup_eq : ∀ other, other ≠ loc → later.lookup other = fs.lookup other

section Locations

variable {fs later last : FileSystem} {loc : Location}

theorem onlyAt_refl (loc : Location) (fs : FileSystem) : OnlyAt loc fs fs :=
  ⟨rfl, rfl, fun _ _ => rfl⟩

theorem onlyAt_trans (h : OnlyAt loc fs later) (h' : OnlyAt loc later last) : OnlyAt loc fs last where
  here_eq := h'.here_eq.trans h.here_eq
  tags_eq := h'.tags_eq.trans h.tags_eq
  lookup_eq other ho := (h'.lookup_eq other ho).trans (h.lookup_eq other ho)

theorem onlyAt_place (fs : FileSystem) (loc : Location) (entry : Entry) :
    OnlyAt loc fs (fs.place loc entry) :=
  ⟨rfl, rfl, fun _ ho => lookup_place_of_ne fs entry ho⟩

theorem onlyAt_remove (fs : FileSystem) (loc : Location) : OnlyAt loc fs (fs.remove loc) :=
  ⟨rfl, rfl, fun _ ho => lookup_remove_of_ne fs ho⟩

theorem ne_nil_of_lookup {found : Option Entry} (h : fs.lookup loc = found)
    (hd : found ≠ some (.directory newDirectoryMode)) : loc ≠ [] := by
  rintro rfl
  exact hd (by simpa [lookup] using h.symm)

theorem ne_nil_of_none (h : fs.lookup loc = none) : loc ≠ [] :=
  ne_nil_of_lookup h (by simp)

theorem ne_nil_of_file {bytes : List UInt8} {mode : Nat}
    (h : fs.lookup loc = some (.file bytes mode)) : loc ≠ [] :=
  ne_nil_of_lookup h (by simp)

theorem onlyAt_setMode (loc : Location) (mode : Nat) (fs : FileSystem) :
    OnlyAt loc fs (setMode loc mode fs) := by
  unfold setMode
  split
  · exact onlyAt_place fs loc _
  · exact onlyAt_refl loc fs

theorem lookup_setMode_file {bytes : List UInt8} {mode : Nat} (mode' : Nat)
    (h : fs.lookup loc = some (.file bytes mode)) :
    (setMode loc mode' fs).lookup loc = some (.file bytes mode') := by
  rw [setMode, h]
  exact lookup_place_self fs _ (ne_nil_of_file h)

theorem onlyAt_copyMode (path : String) (loc : Location) (fs : FileSystem) :
    OnlyAt loc fs (copyMode path loc fs) := by
  unfold copyMode
  split
  · exact onlyAt_setMode loc _ fs
  · exact onlyAt_refl loc fs

def keptMode (fs : FileSystem) (path : String) (mode : Nat) : Nat :=
  match fs.status path with
  | .ok (.file _ old) => old
  | _ => mode

theorem lookup_copyMode_file (path : String) {bytes : List UInt8} {mode : Nat}
    (h : fs.lookup loc = some (.file bytes mode)) :
    (copyMode path loc fs).lookup loc = some (.file bytes (fs.keptMode path mode)) := by
  cases hs : fs.status path with
  | error cause => simpa [copyMode, keptMode, hs] using h
  | ok entry =>
    cases entry with
    | file old mode' => simpa [copyMode, keptMode, hs] using lookup_setMode_file mode' h
    | _ => simpa [copyMode, keptMode, hs] using h

end Locations

section Steps

variable {fs later : FileSystem} {loc : Location}

/-- Appending to an open file never fails. -/
theorem append_file (loc : Location) (bytes : List UInt8) (fs : FileSystem) :
    ∃ later, append (.file loc) bytes fs = .ok () later ∧ OnlyAt loc fs later ∧
      ∀ old mode, fs.lookup loc = some (.file old mode) →
        later.lookup loc = some (.file (old ++ bytes) mode) := by
  cases h : fs.lookup loc with
  | none => exact ⟨fs, by simp [append, h], onlyAt_refl loc fs, by simp⟩
  | some entry =>
    cases entry with
    | file old mode =>
      refine ⟨fs.place loc (.file (old ++ bytes) mode), by simp [append, h],
        onlyAt_place fs loc _, fun old' mode' h' => ?_⟩
      obtain ⟨rfl, rfl⟩ := Entry.file.inj (Option.some.inj h')
      exact lookup_place_self fs _ (ne_nil_of_file h)
    | _ => exact ⟨fs, by simp [append, h], onlyAt_refl loc fs, by simp⟩

theorem vacancy_ok {path : String} (h : fs.vacancy path = .ok loc) :
    ∃ dir name slash, fs.target path .alreadyExists = .ok (dir, name, slash, none) ∧
      loc = name :: dir := by
  unfold vacancy at h
  split at h
  · simp at h
  · simp at h
  · rename_i dir name slash ht
    split at h
    · exact ⟨dir, name, slash, ht, by simpa using h.symm⟩
    · simp at h

theorem makeDirectory_ok {path : String} (h : makeDirectory path fs = .ok () later) :
    ∃ loc mode, fs.vacancy path = .ok loc ∧ later = fs.place loc (.directory mode) := by
  unfold makeDirectory at h
  split at h
  · simp at h
  · rename_i loc hv
    exact ⟨loc, _, hv, by simpa using h.symm⟩

theorem makeDirectory_error {path : String} {cause : Cause}
    (h : makeDirectory path fs = .error cause later) : later = fs := by
  unfold makeDirectory at h
  split at h
  · simpa using (EStateM.Result.error.inj h).2.symm
  · simp at h

theorem createNew_eq (directory name : String) (fs : FileSystem) :
    createNew directory name fs =
      match fs.vacancy (Path.join fs.herePath (Path.join directory name)) with
      | .error cause => .error cause fs
      | .ok loc => .ok loc (fs.place loc (.file [] newFileMode)) := by
  cases hv : fs.vacancy (Path.join fs.herePath (Path.join directory name)) <;>
    (unfold createNew; rw [hv])

theorem createNew_ok {directory name : String} (h : createNew directory name fs = .ok loc later) :
    fs.vacancy (Path.join fs.herePath (Path.join directory name)) = .ok loc ∧
      later = fs.place loc (.file [] newFileMode) := by
  rw [createNew_eq] at h
  split at h
  · cases h
  · rename_i loc' hv
    obtain ⟨rfl, rfl⟩ := EStateM.Result.ok.inj h
    exact ⟨hv, rfl⟩

theorem createNew_error {directory name : String} {cause : Cause}
    (h : createNew directory name fs = .error cause later) :
    fs.vacancy (Path.join fs.herePath (Path.join directory name)) = .error cause ∧ later = fs := by
  rw [createNew_eq] at h
  split at h
  · rename_i cause' hv
    obtain ⟨rfl, rfl⟩ := EStateM.Result.error.inj h
    exact ⟨hv, rfl⟩
  · cases h

theorem createTemporary_zero (directory stem : String) (n : Nat) (fs : FileSystem) :
    createTemporary directory stem 0 n fs = .error .alreadyExists fs := rfl

theorem createTemporary_succ (directory stem : String) (tries n : Nat) (fs : FileSystem) :
    createTemporary directory stem (tries + 1) n fs =
      orIfTaken (createNew directory (temporaryName stem (fs.tags n)))
        (createTemporary directory stem tries (n + 1)) fs := rfl

/-- What opening makes of the entry that is found at a location. -/
inductive Opened (fs : FileSystem) (loc : Location) :
    Option Entry → Handle → FileSystem → Prop
  | created : Opened fs loc none (.file loc) (fs.place loc (.file [] newFileMode))
  | emptied {bytes : List UInt8} {mode : Nat} : Opened fs loc (some (.file bytes mode)) (.file loc)
      (fs.place loc (.file [] (modeOnceWritten mode)))
  | device {kind : Device} : Opened fs loc (some (.device kind)) (.device kind) fs

theorem openForWriting_cases (path : String) (fs : FileSystem) :
    (∃ cause, openForWriting path fs = .error cause fs) ∨
      ∃ dir name found handle later, openForWriting path fs = .ok handle later ∧
        fs.resolve .create path = .ok (.name dir name false) ∧
        fs.child? dir name = .ok found ∧ Opened fs (name :: dir) found handle later := by
  unfold openForWriting
  cases hr : fs.resolve .create path with
  | error cause => exact .inl ⟨cause, rfl⟩
  | ok place =>
    match place with
    | .directory _ => exact .inl ⟨.isADirectory, rfl⟩
    | .name _ _ true => exact .inl ⟨.isADirectory, rfl⟩
    | .name dir name false =>
      dsimp only
      cases hc : fs.child? dir name with
      | error cause => exact .inl ⟨cause, rfl⟩
      | ok found =>
        match found with
        | none =>
          dsimp only
          split
          · exact .inr ⟨dir, name, none, _, _, rfl, rfl, hc, .created⟩
          · exact .inl ⟨.permissionDenied, rfl⟩
        | some (.file bytes mode) =>
          dsimp only
          split
          · exact .inr ⟨dir, name, _, _, _, rfl, rfl, hc, .emptied⟩
          · exact .inl ⟨.permissionDenied, rfl⟩
        | some (.directory _) => exact .inl ⟨.isADirectory, rfl⟩
        | some (.link _) => exact .inl ⟨.filesystemLoop, rfl⟩
        | some (.device _) => exact .inr ⟨dir, name, _, _, _, rfl, rfl, hc, .device⟩

theorem openForWriting_ok {path : String} {handle : Handle}
    (h : openForWriting path fs = .ok handle later) :
    ∃ dir name found, fs.resolve .create path = .ok (.name dir name false) ∧
      fs.child? dir name = .ok found ∧ Opened fs (name :: dir) found handle later := by
  rcases openForWriting_cases path fs with ⟨cause, he⟩ | ⟨dir, name, found, _, _, he, hr, hc, ho⟩
  · rw [he] at h
    cases h
  · rw [he] at h
    obtain ⟨rfl, rfl⟩ := EStateM.Result.ok.inj h
    exact ⟨dir, name, found, hr, hc, ho⟩

theorem rename_ok {path : String} (h : rename loc path fs = .ok () later) :
    ∃ dir name found entry, fs.target path .resourceBusy = .ok (dir, name, false, found) ∧
      (∀ mode, found ≠ some (.directory mode)) ∧ fs.lookup loc = some entry ∧
      later = (fs.remove loc).place (name :: dir) entry := by
  unfold rename at h
  split at h
  · simp at h
  · simp at h
  · simp at h
  · rename_i dir name found hd ht
    split at h
    · simp at h
    · rename_i entry he
      exact ⟨dir, name, found, entry, ht, hd, he, by simpa using h.symm⟩

theorem rename_error {path : String} {cause : Cause}
    (h : rename loc path fs = .error cause later) : later = fs := by
  unfold rename at h
  split at h
  · exact (EStateM.Result.error.inj h).2.symm
  · exact (EStateM.Result.error.inj h).2.symm
  · exact (EStateM.Result.error.inj h).2.symm
  · split at h
    · exact (EStateM.Result.error.inj h).2.symm
    · simp at h

end Steps

end Understudy.FileSystem
