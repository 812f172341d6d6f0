import Understudy.Proofs.Files.Frame
import Understudy.Proofs.Files.Leading

/-!
# Temporary files

The name of a temporary file is longer than the name of the file it will become,
so no temporary file ever stands where its path leads (`not_temporary_of_aim`).
It is created where nothing was, under the first name that is free.
-/

set_option autoImplicit false

namespace Understudy.FileSystem

/-- The location has a name that a temporary file for the path can have. -/
def Temporary (path : String) (loc : Location) : Prop :=
  ∃ tag dir, loc = (temporaryStem path ++ tag ++ ".tmp") :: dir

theorem slash_not_mem_fileName {path name : String} (h : Path.fileName? path = some name) :
    '/' ∉ name.toList := by
  unfold Path.fileName? at h
  split at h
  · rename_i head tail rest ha
    have hname : head = name := by
      split at h
      · simp at h
      · simpa using h
    have ht : head :: tail ∈ Path.ancestry path := by simp [ha]
    obtain ⟨p, ps, t, hs, -, hl⟩ := Path.mem_chain ht
    have hm : head ∈ (Path.pieces path).reverse := by
      rw [hl]
      simp
    exact hname ▸ Path.slash_not_mem (List.mem_reverse.1 hm)
  · simp at h

theorem slash_not_mem_stem (path : String) : '/' ∉ (temporaryStem path).toList := by
  unfold temporaryStem
  split
  · rename_i name h
    simpa using slash_not_mem_fileName h
  · decide

theorem ascii_of_isAlphanum {c : Char} (h : c.isAlphanum = true) : c.val ≤ 127 := by
  delta Char.isAlphanum Char.isAlpha Char.isUpper Char.isLower Char.isDigit at h
  simp only [Bool.or_eq_true, Bool.and_eq_true, decide_eq_true_eq] at h
  rcases h with (⟨-, h⟩ | ⟨-, h⟩) | ⟨-, h⟩ <;> exact UInt32.le_trans h (by decide)

theorem size_of_alphanumeric {cs : List Char} (h : ∀ c ∈ cs, c.isAlphanum = true) :
    (String.ofList cs).utf8ByteSize = cs.length := by
  induction cs with
  | nil => rfl
  | cons c cs ih =>
    obtain ⟨hc, hcs⟩ := List.forall_mem_cons.1 h
    have hsize : c.utf8Size = 1 := Char.utf8Size_eq_one_iff.2 (ascii_of_isAlphanum hc)
    rw [String.ofList_cons, String.utf8ByteSize_append, String.utf8ByteSize_singleton, hsize, ih hcs,
      List.length_cons, Nat.add_comm]

theorem size_tag (tag : Tag) : tag.text.utf8ByteSize = 6 := by
  have hsize := size_of_alphanumeric (List.all_eq_true.1 tag.alphanumeric)
  rwa [String.ofList_toList, String.length_toList, tag.length_eq] at hsize

theorem not_mem_tag (tag : Tag) {c : Char} (hc : c.isAlphanum = false) : c ∉ tag.text.toList := by
  intro h
  rw [List.all_eq_true.1 tag.alphanumeric c h] at hc
  cases hc

theorem slash_not_mem_tag (tag : Tag) : '/' ∉ tag.text.toList := not_mem_tag tag (by decide)

theorem slash_not_mem_temporary (path : String) {tag : String} (hs : '/' ∉ tag.toList) :
    '/' ∉ (temporaryStem path ++ tag ++ ".tmp").toList := by
  simp only [String.toList_append, List.mem_append, not_or]
  exact ⟨⟨slash_not_mem_stem path, hs⟩, by decide⟩

section Aims

variable {fs later : FileSystem} {path : String} {loc : Location}

theorem fileName?_of_aim (h : fs.Aim path loc) :
    ∃ name dir, Path.fileName? path = some name ∧ loc = name :: dir := by
  obtain ⟨init, name, dir, hn, ht, -, rfl⟩ := h
  obtain ⟨-, hd, hu⟩ := turn?_eq_none.1 ht
  exact ⟨name, dir, Path.fileName?_of_names hn hd hu, rfl⟩

theorem not_temporary_of_aim (h : fs.Aim path loc) : ¬ Temporary path loc := by
  rintro ⟨tag, dir, rfl⟩
  obtain ⟨name, dir', hn, he⟩ := fileName?_of_aim h
  have hl := congrArg String.length (List.cons.inj he).1
  have hdot : ".".length = 1 := rfl
  simp only [temporaryStem, hn, String.length_append, hdot] at hl
  omega

theorem vacancy_aim (hw : Within later fs) (h : later.vacancy path = .ok loc) :
    fs.Aim path loc ∧ later.lookup loc = none := by
  obtain ⟨dir, name, slash, ht, rfl⟩ := vacancy_ok h
  exact aim_of_target hw ht

end Aims

section Creating

variable {fs later : FileSystem} {path : String} {loc : Location}

theorem createNew_temporary {tag : String} (hs : '/' ∉ tag.toList)
    (h : createNew (Path.directory path) (temporaryStem path ++ tag ++ ".tmp") fs = .ok loc later) :
    Temporary path loc ∧ fs.lookup loc = none ∧ OnlyAt loc fs later ∧
      later.lookup loc = some (.file [] newFileMode) := by
  obtain ⟨hv, rfl⟩ := createNew_ok h
  obtain ⟨⟨init, name, dir, hn, -, -, rfl⟩, hl⟩ := vacancy_aim (within_refl fs) hv
  have hslash := slash_not_mem_temporary path hs
  have hne : temporaryStem path ++ tag ++ ".tmp" ≠ "" := by simp
  obtain ⟨before, hn'⟩ := Path.join_join_names fs.herePath (Path.directory path) hslash hne
  obtain ⟨-, hname⟩ := List.append_inj' (hn.symm.trans hn') rfl
  obtain rfl := List.singleton_inj.1 hname
  exact ⟨⟨tag, dir, rfl⟩, hl, onlyAt_place fs _ _, lookup_place_self fs _ (ne_nil_of_none hl)⟩

theorem orIfTaken_cases {α : Type} {step next : Action α} {result : EStateM.Result Cause FileSystem α}
    (h : orIfTaken step next fs = result) :
    step fs = result ∨ ∃ later, step fs = .error .alreadyExists later ∧ next later = result := by
  unfold orIfTaken at h
  split at h
  · rename_i hs
    exact .inr ⟨_, hs, h⟩
  · exact .inl h

theorem createTemporary_ok {directory stem : String} {tries n : Nat}
    (h : createTemporary directory stem tries n fs = .ok loc later) :
    ∃ tag, createNew directory (temporaryName stem tag) fs = .ok loc later := by
  induction tries generalizing n with
  | zero => simp [createTemporary_zero] at h
  | succ tries ih =>
    rw [createTemporary_succ] at h
    rcases orIfTaken_cases h with hc | ⟨fs', hc, hn⟩
    · exact ⟨_, hc⟩
    · obtain ⟨-, rfl⟩ := createNew_error hc
      exact ih hn

theorem createTemporary_error {directory stem : String} {tries n : Nat} {cause : Cause}
    (h : createTemporary directory stem tries n fs = .error cause later) : later = fs := by
  induction tries generalizing n with
  | zero =>
    rw [createTemporary_zero] at h
    exact (EStateM.Result.error.inj h).2.symm
  | succ tries ih =>
    rw [createTemporary_succ] at h
    rcases orIfTaken_cases h with hc | ⟨fs', hc, hn⟩
    · exact (createNew_error hc).2
    · obtain ⟨-, rfl⟩ := createNew_error hc
      exact ih hn

end Creating

end Understudy.FileSystem
