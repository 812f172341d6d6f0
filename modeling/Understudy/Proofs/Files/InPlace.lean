import Understudy.Proofs.Files.Agreement
import Understudy.Proofs.Output.Capacity

/-!
# Writing in place

Once a direct write has opened a file, the file holds in the end what its encoding
reaches of the content, whether all of it can be encoded or not, and nothing of what
it held before (`written_in_place`). That is what the sink without bounds gets from the
same content, so the buffer before the file does not show.
-/

set_option autoImplicit false

namespace Understudy.FileSystem

variable {path : String} {fs made opened later : FileSystem} {loc : Location}

/-- The regular file that a direct write to a path opens, once the directories above it
have been made. -/
def opensAt? (fs : FileSystem) (path : String) : Option Location :=
  match makeDirectories (Path.directory path) fs with
  | .error _ _ => none
  | .ok () made =>
    match openForWriting path made with
    | .ok (.file loc) _ => some loc
    | _ => none

theorem opensAt?_eq_some (h : fs.opensAt? path = some loc) :
    ∃ made opened, makeDirectories (Path.directory path) fs = .ok () made ∧
      openForWriting path made = .ok (.file loc) opened := by
  unfold opensAt? at h
  cases hm : makeDirectories (Path.directory path) fs with
  | error cause made => simp [hm] at h
  | ok u made =>
    rw [hm] at h
    dsimp only at h
    split at h
    · rename_i opened ho
      exact ⟨made, opened, rfl, by rw [ho, Option.some.inj h]⟩
    · cases h

/-- The permission bits of a file once bytes have been written to it in place: those of
a new file, or what is left of its own. -/
def modeInPlace : Option Entry → Nat
  | some (.file _ mode) => modeOnceWritten mode
  | _ => newFileMode

theorem opened_file (h : openForWriting path fs = .ok (.file loc) opened) :
    ∃ dir name found, loc = name :: dir ∧ fs.resolve .create path = .ok (.name dir name false) ∧
      fs.child? dir name = .ok found ∧ (∀ entry, found = some entry → ∃ old mode,
        entry = .file old mode) ∧
      opened = fs.place loc (.file [] (modeInPlace found)) := by
  obtain ⟨dir, name, found, hr, hc, ho⟩ := openForWriting_ok h
  cases ho with
  | created => exact ⟨dir, name, none, rfl, hr, hc, by simp, rfl⟩
  | @emptied old mode => exact ⟨dir, name, some (.file old mode), rfl, hr, hc, by simp, rfl⟩

theorem plain_of_file {found : Option Entry}
    (h : ∀ entry, found = some entry → ∃ old mode, entry = .file old mode) :
    (∀ mode, found ≠ some (.directory mode)) ∧ ∀ target, found ≠ some (.link target) := by
  constructor
  all_goals
    intro _ he
    obtain ⟨old, mode, hf⟩ := h _ he
    cases hf

theorem lookup_of_grown_file {above : List String} {found : Option Entry}
    (h : Grown above fs made) (hl : made.lookup loc = found)
    (hf : ∀ entry, found = some entry → ∃ old mode, entry = .file old mode) :
    fs.lookup loc = found := by
  rcases h.spared loc with he | ⟨-, ⟨mode, hd⟩, -⟩
  · rw [← he, hl]
  · obtain ⟨old, mode', he⟩ := hf _ (hl.symm.trans hd)
    cases he

theorem write_in_place (hs : Standing fs) (h : fs.opensAt? path = some loc) (encoding : Encoding)
    (c : Content) :
    let written : Entry := .file (encoding.reach c.fragments) (modeInPlace (fs.lookup loc))
    ∃ later, write path c { mode := .direct, encoding } fs =
        emissionEnd encoding c.fragments later ∧
      later.lookup loc = some written ∧ later.status path = .ok written ∧
      ∀ other, other ≠ loc → Spared (Path.ancestors path).tail fs later other := by
  intro written
  obtain ⟨made, opened, hm, ho⟩ := opensAt?_eq_some h
  obtain ⟨hg, hmade⟩ := makeDirectories_ok hs hm
  obtain ⟨dir, name, found, rfl, hr, hc, hfound, rfl⟩ := opened_file ho
  have hlookup := lookup_of_grown_file hg (lookup_of_child? hc) hfound
  obtain ⟨later, hfill, ha⟩ := fill_file (name :: dir) encoding c
    (made.place (name :: dir) (.file [] (modeInPlace found)))
  obtain ⟨hdirectory, hlink⟩ := plain_of_file hfound
  obtain ⟨hfile, hstatus⟩ := status_of_appends hmade hr hc hdirectory hlink ha
  rw [← hlookup] at hfile hstatus
  refine ⟨later, ?_, hfile, hstatus, ?_⟩
  · rw [write_opened rfl hm ho, hfill]
  · intro other hother
    refine spared_of_lookup_eq (hg.spared other) ?_
    rw [(appends_frame ha).1.lookup_eq other hother, lookup_place_of_ne made _ hother]

/-- The sink without bounds takes all that the encoding reaches, and fails as the encoding
of the fragments does. -/
theorem emitInto_unbounded (encoding : Encoding) (c : Content) (later : FileSystem) :
    (c.emitInto encoding {}).1 = failure? (emissionEnd encoding c.fragments later) ∧
      (c.emitInto encoding {}).2.written.toList = encoding.reach c.fragments := by
  obtain ⟨hfailure, hwritten⟩ := Content.emitInto_fits encoding c (s := {}) rfl (by simp)
    (by simp) (by simp)
  refine ⟨?_, hwritten⟩
  rw [hfailure, emissionEnd]
  cases encoding.refusal? c.fragments <;> rfl

/-- A direct write to a path where it can open a regular file ends as the encoding of the
fragments does. The file holds the bytes of those before the first that is refused, which
is the whole text when none is, and can be read if its owner may. The sink without bounds
gets the same bytes and fails in the same way. No other entry that was there is another
one, and those that are new are directories above the path. -/
theorem written_in_place (hs : Standing fs) (h : fs.opensAt? path = some loc)
    (encoding : Encoding) (c : Content) :
    let bytes := encoding.reach c.fragments
    let mode := modeInPlace (fs.lookup loc)
    ∃ later, write path c { mode := .direct, encoding } fs =
        emissionEnd encoding c.fragments later ∧
      ((∀ t ∈ c.fragments, encoding.accepts t = true) →
        write path c { mode := .direct, encoding } fs = .ok () later ∧
        bytes = Text.bytes c.text) ∧
      later.lookup loc = some (.file bytes mode) ∧
      later.status path = .ok (.file bytes mode) ∧
      ((Entry.file bytes mode).grants .read = true → later.read path = .ok bytes) ∧
      (c.emitInto encoding {}).1 =
        failure? (write path c { mode := .direct, encoding } fs) ∧
      (c.emitInto encoding {}).2.written.toList = bytes ∧
      ∀ other, other ≠ loc → Spared (Path.ancestors path).tail fs later other := by
  intro bytes mode
  obtain ⟨later, hw, hfile, hstatus, hspared⟩ := write_in_place hs h encoding c
  obtain ⟨hfailure, hwritten⟩ := emitInto_unbounded encoding c later
  refine ⟨later, hw, ?_, hfile, hstatus, read_of_status hstatus, ?_, hwritten, hspared⟩
  · intro hall
    have hnone := Encoding.refusal?_eq_none.2 hall
    refine ⟨?_, Encoding.reach_eq_bytes hnone⟩
    rw [hw, emissionEnd, hnone]
  · rw [hw, hfailure]

section Repeated

def repeated (text : String) (count : Nat) : String := String.join (List.replicate count text)

theorem repeated_ne_empty {text : String} (h : text ≠ "") (count : Nat) :
    repeated text (count + 1) ≠ "" := by
  simp [repeated, List.replicate_succ, h]

theorem accepts_repeated {encoding : Encoding} {text : String} (h : encoding.accepts text = true)
    (count : Nat) : encoding.accepts (repeated text count) = true := by
  cases encoding with
  | utf8 => rfl
  | ascii =>
    rw [Encoding.accepts] at h ⊢
    induction count with
    | zero => rfl
    | succ count ih =>
      rw [repeated, List.replicate_succ, String.join_cons, ← repeated, Text.bytes_append,
        List.all_append, h, ih]
      rfl

/-- Fragments that fill the buffer, that make it overflow and that pass it by, before one
that is not ASCII. -/
theorem refused_fragment_ends_file :
    let long := repeated "12345678"
    let c : Content := .group [.leaf (long 1000), .leaf (long 40), .leaf (long 1024),
      .leaf "dé", .leaf "e"] (some "-") none
    special.Standing ∧ special.opensAt? "link" = some ["tool"] ∧
      (∃ later, write "link" c { mode := .direct, encoding := .ascii } special =
          .error (.notEncodable .ascii 1) later ∧
        later.read "link" = .ok (Text.bytes (long 1000) ++ Text.bytes "-" ++
          Text.bytes (long 40) ++ Text.bytes "-" ++ Text.bytes (long 1024) ++ Text.bytes "-") ∧
        later.mode? "link" = some 0o755) ∧
      (∀ t ∈ c.fragments, Encoding.utf8.accepts t = true) ∧
      ∃ later, write "link" c { mode := .direct, encoding := .utf8 } special = .ok () later ∧
        later.read "link" = .ok (Text.bytes c.text) := by
  intro long c
  have hopen : special.opensAt? "link" = some ["tool"] := by decide
  have hmode : modeInPlace (special.lookup ["tool"]) = 0o755 := by decide
  have hall : ∀ t ∈ c.fragments, Encoding.utf8.accepts t = true := fun _ _ => rfl
  have hfragments : c.fragments = [long 1000, "-", long 40, "-", long 1024, "-", "dé", "-", "e"] := by
    have hshown : ∀ count, Content.shown (long (count + 1)) = [long (count + 1)] := fun count =>
      if_neg (repeated_ne_empty (by decide) count)
    simp only [c, Content.fragments, Content.fragmentsBetween, hshown 999, hshown 39, hshown 1023]
    rfl
  have hlong : ∀ count, Encoding.ascii.accepts (long count) = true :=
    accepts_repeated (by decide)
  have hdash : Encoding.ascii.accepts "-" = true := by decide
  have hrefused : Encoding.ascii.accepts "dé" = false := by decide
  have hreach : Encoding.ascii.reach c.fragments = Text.bytes (long 1000) ++ Text.bytes "-" ++
      Text.bytes (long 40) ++ Text.bytes "-" ++ Text.bytes (long 1024) ++ Text.bytes "-" := by
    simp [hfragments, Encoding.reach, hlong, hdash, hrefused]
  have hoffset : Encoding.ascii.refusal? c.fragments = some 1 := by
    have hfirst : (c.fragments.find? fun t => !Encoding.ascii.accepts t) = some "dé" := by
      simp [hfragments, hlong, hdash, hrefused]
    rw [Encoding.refusal?, hfirst]
    decide
  obtain ⟨cut, hcut, -, -, hstatus, hread, -⟩ := written_in_place special_standing hopen .ascii c
  obtain ⟨whole, -, hwhole, -, -, hreadable, -⟩ :=
    written_in_place special_standing hopen .utf8 c
  rw [hmode] at hstatus hread hreadable
  rw [hreach] at hstatus hread
  rw [emissionEnd, hoffset] at hcut
  obtain ⟨hok, htext⟩ := hwhole hall
  refine ⟨special_standing, hopen, ⟨cut, hcut, hread rfl, ?_⟩, hall, whole, hok, ?_⟩
  · rw [mode?, hstatus]
    rfl
  · rw [hreadable rfl, htext]

end Repeated

end Understudy.FileSystem
