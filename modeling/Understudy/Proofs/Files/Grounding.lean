import Understudy.Proofs.Files.Frame
import Understudy.Proofs.Files.Leading

/-!
# File systems that stand

In a file system every entry is in a directory, and so is whoever works in it.
The definitions allow other states, but no step leads to one: every file system
that steps have built from the root alone stands (`built_standing`).
-/

set_option autoImplicit false

namespace Understudy.FileSystem

def DirectoryAt (fs : FileSystem) (loc : Location) : Prop :=
  ∃ mode, fs.lookup loc = some (.directory mode)

/-- Everything stands in a directory. -/
def Grounded (fs : FileSystem) : Prop :=
  ∀ loc entry, fs.lookup loc = some entry → fs.DirectoryAt loc.tail

structure Standing (fs : FileSystem) : Prop where
  here : fs.DirectoryAt fs.here
  grounded : fs.Grounded

section Standing

variable {fs later : FileSystem} {loc dir : Location}

theorem directoryAt_root (fs : FileSystem) : fs.DirectoryAt [] :=
  ⟨newDirectoryMode, by simp [lookup]⟩

theorem lookup_below (hg : fs.Grounded) (hn : fs.lookup dir = none) (hs : dir <:+ loc) :
    fs.lookup loc = none := by
  induction loc with
  | nil =>
    rw [← List.suffix_nil.1 hs]
    exact hn
  | cons name rest ih =>
    rcases List.suffix_cons_iff.1 hs with rfl | hs
    · exact hn
    · cases h : fs.lookup (name :: rest) with
      | none => rfl
      | some entry =>
        obtain ⟨mode, hd⟩ := hg _ _ h
        rw [List.tail_cons, ih hs] at hd
        simp at hd

theorem grounded_of_entries (h : ∀ e ∈ fs.entries, fs.DirectoryAt e.1.tail) : fs.Grounded := by
  intro loc entry hl
  by_cases hr : loc = []
  · exact hr ▸ directoryAt_root fs
  · rw [lookup, if_neg hr] at hl
    obtain ⟨e, hf, -⟩ := Option.map_eq_some_iff.1 hl
    have he : e.1 = loc := by simpa using List.find?_some hf
    exact he ▸ h e (List.mem_of_find?_eq_some hf)

theorem directoryAt_tail (hg : fs.Grounded) (hd : fs.DirectoryAt loc) :
    fs.DirectoryAt loc.tail := by
  obtain ⟨mode, hl⟩ := hd
  exact hg loc _ hl

theorem directoryAt_turn {dir' : Location} {name : String} (hg : fs.Grounded)
    (hd : fs.DirectoryAt dir) (ht : turn? dir name = some dir') : fs.DirectoryAt dir' := by
  by_cases hu : name = ".."
  · obtain rfl : dir.tail = dir' := by simpa [turn?, hu] using ht
    exact directoryAt_tail hg hd
  · rw [turn?_eq_some ht hu]
    exact hd

def Landed (fs : FileSystem) : Place → Prop
  | .directory loc => fs.DirectoryAt loc
  | .name dir _ _ => fs.DirectoryAt dir

theorem directoryAt_start (route : Path.Route) (hd : fs.DirectoryAt dir) :
    fs.DirectoryAt (route.start dir) := by
  unfold Path.Route.start
  split
  · exact directoryAt_root fs
  · exact hd

theorem findVia_landed (hg : fs.Grounded) {ending : Ending}
    {follow : Location → Bool → List String → Except Cause Place}
    (hf : ∀ dir slash names place, fs.DirectoryAt dir →
      follow dir slash names = .ok place → fs.Landed place)
    {slash : Bool} {names : List String} {place : Place}
    (hd : fs.DirectoryAt dir) (h : fs.findVia ending follow dir slash names = .ok place) :
    fs.Landed place := by
  fun_induction findVia fs ending follow dir slash names with
  | case1 =>
    obtain rfl := Except.ok.inj h
    exact hd
  | case2 _ _ ih => exact ih hd h
  | case4 _ _ _ _ ih => exact ih hd h
  | case5 _ _ _ _ _ ih => exact ih (directoryAt_tail hg hd) h
  | case6 => exact hf _ _ _ _ (directoryAt_start _ hd) h
  | case7 =>
    obtain rfl := Except.ok.inj h
    exact hd
  | case10 _ _ _ _ _ _ _ _ mode hc ih => exact ih ⟨mode, lookup_of_child? hc⟩ h
  | case11 => exact hf _ _ _ _ (directoryAt_start _ hd) h
  | _ => cases h

theorem find_landed (hg : fs.Grounded) {ending : Ending} {links : Nat} {slash : Bool}
    {names : List String} {place : Place} (hd : fs.DirectoryAt dir)
    (h : fs.find ending links dir slash names = .ok place) : fs.Landed place := by
  induction links generalizing dir slash names place with
  | zero => exact findVia_landed hg (fun _ _ _ _ _ hf => by cases hf) hd h
  | succ links ih => exact findVia_landed hg (fun _ _ _ _ hd' hf => ih hd' hf) hd h

theorem resolve_landed (hs : Standing fs) {ending : Ending} {path : String} {place : Place}
    (h : fs.resolve ending path = .ok place) : fs.Landed place := by
  unfold resolve at h
  split at h
  · cases h
  · exact find_landed hs.grounded (directoryAt_start _ hs.here) h

theorem target_landed (hs : Standing fs) {path name : String} {cause : Cause} {slash : Bool}
    {found : Option Entry} (h : fs.target path cause = .ok (dir, name, slash, found)) :
    fs.DirectoryAt dir :=
  resolve_landed hs (target_ok h).1

/-- One location has changed: what is there now is in a directory, and it is a
directory if it was one. -/
theorem standing_of_onlyAt (hs : Standing fs) (ho : OnlyAt loc fs later)
    (hp : later.lookup loc ≠ none → fs.DirectoryAt loc.tail)
    (hd : fs.DirectoryAt loc → later.DirectoryAt loc) : Standing later := by
  -- No directory is lost, so whatever stands elsewhere goes on standing.
  have hkeep : ∀ other, fs.DirectoryAt other → later.DirectoryAt other := by
    intro other hother
    by_cases he : other = loc
    · exact he ▸ hd (he ▸ hother)
    · obtain ⟨mode, hl⟩ := hother
      exact ⟨mode, by rw [ho.lookup_eq other he, hl]⟩
  constructor
  · rw [ho.here_eq]
    exact hkeep _ hs.here
  · intro other entry hl
    by_cases he : other = loc
    · subst he
      exact hkeep _ (hp (by simp [hl]))
    · rw [ho.lookup_eq other he] at hl
      exact hkeep _ (hs.grounded other entry hl)

theorem vacancy_standing (hs : Standing fs) {path : String} (entry : Entry)
    (h : fs.vacancy path = .ok loc) : Standing (fs.place loc entry) := by
  obtain ⟨dir, name, slash, ht, rfl⟩ := vacancy_ok h
  have hn := (target_ok ht).2
  refine standing_of_onlyAt hs (onlyAt_place fs _ entry) (fun _ => target_landed hs ht) ?_
  rintro ⟨mode, hl⟩
  simp [hn] at hl

theorem not_directoryAt {entry : Entry} (hl : fs.lookup loc = some entry)
    (hd : entry.isDirectory = false) : ¬ fs.DirectoryAt loc := by
  rintro ⟨mode, hm⟩
  obtain rfl := Option.some.inj (hl.symm.trans hm)
  simp [Entry.isDirectory] at hd

theorem place_standing (hs : Standing fs) {old : Entry} (new : Entry)
    (hl : fs.lookup loc = some old) (hd : old.isDirectory = false) :
    Standing (fs.place loc new) :=
  standing_of_onlyAt hs (onlyAt_place fs loc new) (fun _ => hs.grounded loc old hl)
    fun h => absurd h (not_directoryAt hl hd)

theorem remove_standing (hs : Standing fs) {old : Entry} (hl : fs.lookup loc = some old)
    (hd : old.isDirectory = false) : Standing (fs.remove loc) :=
  standing_of_onlyAt hs (onlyAt_remove fs loc) (fun _ => hs.grounded loc old hl)
    fun h => absurd h (not_directoryAt hl hd)

theorem setMode_standing (hs : Standing fs) (loc : Location) (mode : Nat) :
    Standing (setMode loc mode fs) := by
  unfold setMode
  cases hl : fs.lookup loc with
  | none => exact hs
  | some entry =>
    refine standing_of_onlyAt hs (onlyAt_place fs loc _) (fun _ => hs.grounded loc entry hl) ?_
    rintro ⟨old, hd⟩
    obtain rfl := Option.some.inj (hl.symm.trans hd)
    by_cases hr : loc = []
    · exact hr ▸ directoryAt_root _
    · exact ⟨mode, lookup_place_self fs _ hr⟩

end Standing

section Grounds

variable {path above : String} {fs : FileSystem} {loc dest : Location}

/-- A path leads below every missing directory on the way to it: without two dots the
way never comes back up. -/
theorem below_of_above (hg : fs.Grounded) (hu : ".." ∉ (Path.route path).names)
    (hm : above ∈ (Path.ancestors path).tail) (ha : fs.Aim above loc)
    (hn : fs.lookup loc = none) (hp : fs.Aim path dest) : loc <:+ dest.tail := by
  obtain ⟨hroot, more, hmore, hnames⟩ := Path.above_route hm
  obtain ⟨init, name, dir, hi, ht, hl, rfl⟩ := ha
  obtain ⟨init', name', dir', hi', -, hl', rfl⟩ := hp
  have hstart : (Path.route path).start fs.here = (Path.route above).start fs.here := by
    rw [Path.Route.start, Path.Route.start, hroot]
  have hway : init' = init ++ name :: more.dropLast := by
    rw [hi, ← List.dropLast_concat_getLast hmore, ← List.append_assoc] at hnames
    obtain ⟨hinit, -⟩ := List.append_inj' (hi'.symm.trans hnames) rfl
    rw [hinit, List.append_assoc, List.singleton_append]
  rw [hstart, hway] at hl'
  obtain ⟨mid, hmid, hrest⟩ := leads_append hl'
  obtain rfl := leads_unique hmid hl
  cases hrest with
  | turn ht' _ => simp [ht] at ht'
  | link _ hlink _ => simp [hn] at hlink
  | enter _ _ hdown =>
    have hu' : ".." ∉ more.dropLast := by
      intro hmem
      apply hu
      rw [hnames]
      exact List.mem_append_right _ (List.dropLast_subset more hmem)
    exact suffix_of_leads hdown hu' fun other ho => lookup_below hg hn ho

/-- A missing directory on the way to a path is not where the path leads. -/
theorem not_aim_of_above (hg : fs.Grounded) (hu : ".." ∉ (Path.route path).names)
    (hm : above ∈ (Path.ancestors path).tail) (ha : fs.Aim above loc)
    (hn : fs.lookup loc = none) : ¬ fs.Aim path loc := by
  intro hp
  have hlen := (below_of_above hg hu hm ha hn hp).length_le
  have hpos : 0 < loc.length := List.length_pos_iff.2 (ne_nil_of_none hn)
  rw [List.length_tail] at hlen
  omega

end Grounds

section Actions

variable {fs : FileSystem}

theorem makeDirectory_standing (hs : Standing fs) (path : String) :
    Standing (after (makeDirectory path fs)) := by
  cases h : makeDirectory path fs with
  | error cause later =>
    obtain rfl := makeDirectory_error h
    exact hs
  | ok u later =>
    obtain ⟨loc, mode, hv, rfl⟩ := makeDirectory_ok h
    exact vacancy_standing hs _ hv

theorem createNew_standing (hs : Standing fs) (directory name : String) :
    Standing (after (createNew directory name fs)) := by
  cases h : createNew directory name fs with
  | error cause later =>
    obtain ⟨-, rfl⟩ := createNew_error h
    exact hs
  | ok loc later =>
    obtain ⟨hv, rfl⟩ := createNew_ok h
    exact vacancy_standing hs _ hv

theorem makeLink_standing (hs : Standing fs) (path target : String) :
    Standing (after (makeLink path target fs)) := by
  unfold makeLink
  split
  · exact hs
  · split
    · exact hs
    · exact vacancy_standing hs _ (by assumption)

theorem openForWriting_standing (hs : Standing fs) (path : String) :
    Standing (after (openForWriting path fs)) := by
  rcases openForWriting_cases path fs with ⟨cause, he⟩ | ⟨dir, name, found, _, _, he, hr, hc, ho⟩
  · rw [he]
    exact hs
  · rw [he]
    have hl := lookup_of_child? hc
    cases ho with
    | created =>
      refine standing_of_onlyAt hs (onlyAt_place fs _ _) (fun _ => resolve_landed hs hr) ?_
      rintro ⟨mode, hm⟩
      simp [hl] at hm
    | emptied => exact place_standing hs _ hl rfl
    | device => exact hs

theorem append_standing (hs : Standing fs) (handle : Handle) (bytes : List UInt8) :
    Standing (after (append handle bytes fs)) := by
  unfold append
  split
  · exact hs
  · exact hs
  · split
    · exact place_standing hs _ (by assumption) rfl
    · exact hs

theorem changeMode_standing (hs : Standing fs) (path : String) (mode : Nat) :
    Standing (after (changeMode path mode fs)) := by
  unfold changeMode
  split
  · exact hs
  · exact setMode_standing hs _ _
  · split
    · exact hs
    · exact hs
    · exact setMode_standing hs _ _

theorem rename_standing (hs : Standing fs) {source : Location} {entry : Entry} (path : String)
    (hl : fs.lookup source = some entry) (hd : entry.isDirectory = false) :
    Standing (after (rename source path fs)) := by
  cases h : rename source path fs with
  | error cause later =>
    obtain rfl := rename_error h
    exact hs
  | ok u later =>
    obtain ⟨dir, name, found, entry', ht, hf, -, rfl⟩ := rename_ok h
    have hr := remove_standing hs hl hd
    have hdir : (fs.remove source).DirectoryAt dir := by
      obtain ⟨mode, hm⟩ := target_landed hs ht
      have hne : dir ≠ source := by
        rintro rfl
        exact not_directoryAt hl hd ⟨mode, hm⟩
      exact ⟨mode, by rw [lookup_remove_of_ne fs hne, hm]⟩
    refine standing_of_onlyAt hr (onlyAt_place _ _ _) (fun _ => hdir) ?_
    rintro ⟨mode, hm⟩
    by_cases he : name :: dir = source
    · rw [he, lookup_remove_self fs (he ▸ List.cons_ne_nil name dir)] at hm
      simp at hm
    · rw [lookup_remove_of_ne fs he, (target_ok ht).2] at hm
      exact absurd hm (hf mode)

theorem placeDevice_standing (hs : Standing fs) {loc : Location} (kind : Device)
    (hn : fs.lookup loc = none) (hd : fs.DirectoryAt loc.tail) :
    Standing (fs.place loc (.device kind)) := by
  refine standing_of_onlyAt hs (onlyAt_place fs _ _) (fun _ => hd) ?_
  rintro ⟨mode, hm⟩
  simp [hn] at hm

end Actions

theorem root_standing (tags : Nat → Tag) : Standing { entries := [], tags } where
  here := directoryAt_root _
  grounded := grounded_of_entries (by simp)

/-- What the steps build from nothing but the root, with devices where there was nothing.
Only a directory cannot be moved or removed, as what is in it would be left behind. -/
inductive Built : FileSystem → Prop
  | root (tags : Nat → Tag) : Built { entries := [], tags }
  | enter {fs : FileSystem} {dir : Location} :
      Built fs → fs.DirectoryAt dir → Built { fs with here := dir }
  | placeDevice {fs : FileSystem} {loc : Location} (kind : Device) :
      Built fs → fs.lookup loc = none → fs.DirectoryAt loc.tail →
      Built (fs.place loc (.device kind))
  | makeDirectory {fs : FileSystem} (path : String) :
      Built fs → Built (after (makeDirectory path fs))
  | createNew {fs : FileSystem} (directory name : String) :
      Built fs → Built (after (createNew directory name fs))
  | makeLink {fs : FileSystem} (path target : String) :
      Built fs → Built (after (makeLink path target fs))
  | openForWriting {fs : FileSystem} (path : String) :
      Built fs → Built (after (openForWriting path fs))
  | append {fs : FileSystem} (handle : Handle) (bytes : List UInt8) :
      Built fs → Built (after (append handle bytes fs))
  | changeMode {fs : FileSystem} (path : String) (mode : Nat) :
      Built fs → Built (after (changeMode path mode fs))
  | setMode {fs : FileSystem} (loc : Location) (mode : Nat) :
      Built fs → Built (setMode loc mode fs)
  | rename {fs : FileSystem} {source : Location} {entry : Entry} (path : String) :
      Built fs → fs.lookup source = some entry → entry.isDirectory = false →
      Built (after (rename source path fs))
  | remove {fs : FileSystem} {loc : Location} {entry : Entry} :
      Built fs → fs.lookup loc = some entry → entry.isDirectory = false → Built (fs.remove loc)

theorem built_standing {fs : FileSystem} (h : Built fs) : Standing fs := by
  induction h with
  | root tags => exact root_standing tags
  | enter _ hd ih => exact ⟨hd, ih.grounded⟩
  | placeDevice kind _ hn hd ih => exact placeDevice_standing ih kind hn hd
  | makeDirectory path _ ih => exact makeDirectory_standing ih path
  | createNew directory name _ ih => exact createNew_standing ih directory name
  | makeLink path target _ ih => exact makeLink_standing ih path target
  | openForWriting path _ ih => exact openForWriting_standing ih path
  | append handle bytes _ ih => exact append_standing ih handle bytes
  | changeMode path mode _ ih => exact changeMode_standing ih path mode
  | setMode loc mode _ ih => exact setMode_standing ih loc mode
  | rename path _ hl hd ih => exact rename_standing ih path hl hd
  | remove _ hl hd ih => exact remove_standing ih hl hd

end Understudy.FileSystem
