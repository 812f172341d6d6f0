import Understudy.Files.Replacement
import Understudy.Proofs.Files.Names

/-!
# Where a path leads

`Leads` says where a route of names goes from a directory, when a missing entry
is taken for a directory that is still to be made; `Aim` says so of the entry
that a path names. A path has at most one aim (`aim_unique`), and it is where
the search finds the path in any later state that has gained only directories
and files (`aim_of_target`): making the directories of a path does not move it.
-/

set_option autoImplicit false

namespace Understudy

namespace FileSystem

/-- Where the names go that stand for no entry: an empty one and a dot nowhere, two
dots up. -/
def turn? (dir : Location) (name : String) : Option Location :=
  if name = "" ∨ name = "." then some dir else if name = ".." then some dir.tail else none

theorem turn?_eq_none {dir : Location} {name : String} :
    turn? dir name = none ↔ name ≠ "" ∧ name ≠ "." ∧ name ≠ ".." := by
  unfold turn?
  by_cases h : name = "" ∨ name = "."
  · rcases h with rfl | rfl <;> simp
  · by_cases hu : name = ".." <;> simp_all

theorem turn?_eq_some {dir dir' : Location} {name : String} (h : turn? dir name = some dir')
    (hu : name ≠ "..") : dir' = dir := by
  unfold turn? at h
  by_cases hn : name = "" ∨ name = "."
  · rw [if_pos hn] at h
    exact (Option.some.inj h).symm
  · simp [hn, hu] at h

def Passable (fs : FileSystem) (loc : Location) : Prop :=
  fs.lookup loc = none ∨ ∃ mode, fs.lookup loc = some (.directory mode)

inductive Leads (fs : FileSystem) : Location → List String → Location → Prop
  | here (dir : Location) : Leads fs dir [] dir
  | turn {dir dir' goal : Location} {name : String} {rest : List String} :
      turn? dir name = some dir' → Leads fs dir' rest goal → Leads fs dir (name :: rest) goal
  | enter {dir goal : Location} {name : String} {rest : List String} :
      turn? dir name = none → fs.Passable (name :: dir) → Leads fs (name :: dir) rest goal →
      Leads fs dir (name :: rest) goal
  | link {dir goal : Location} {name target : String} {rest : List String} :
      turn? dir name = none → fs.lookup (name :: dir) = some (.link target) →
      Leads fs ((Path.route target).start dir) ((Path.route target).names ++ rest) goal →
      Leads fs dir (name :: rest) goal

section Leading

variable {fs : FileSystem}

theorem not_passable_of_link {loc : Location} {target : String}
    (h : fs.lookup loc = some (.link target)) : ¬ fs.Passable loc := by
  rintro (hn | ⟨mode, hd⟩)
  · simp [hn] at h
  · simp [hd] at h

theorem leads_unique {dir goal goal' : Location} {names : List String}
    (h : Leads fs dir names goal) (h' : Leads fs dir names goal') : goal = goal' := by
  induction h with
  | here dir =>
    cases h'
    rfl
  | turn ht _ ih =>
    cases h' with
    | turn ht' h' =>
      obtain rfl := Option.some.inj (ht.symm.trans ht')
      exact ih h'
    | enter ht' _ _ => simp [ht] at ht'
    | link ht' _ _ => simp [ht] at ht'
  | enter ht hd _ ih =>
    cases h' with
    | turn ht' _ => simp [ht] at ht'
    | enter _ _ h' => exact ih h'
    | link _ hl _ => exact absurd hd (not_passable_of_link hl)
  | link ht hl _ ih =>
    cases h' with
    | turn ht' _ => simp [ht] at ht'
    | enter _ hd _ => exact absurd hd (not_passable_of_link hl)
    | link _ hl' h' =>
      obtain rfl := Entry.link.inj (Option.some.inj (hl.symm.trans hl'))
      exact ih h'

theorem leads_append {dir goal : Location} {names more : List String}
    (h : Leads fs dir (names ++ more) goal) :
    ∃ mid, Leads fs dir names mid ∧ Leads fs mid more goal := by
  generalize hr : names ++ more = route at h
  induction h generalizing names with
  | here dir =>
    obtain ⟨rfl, rfl⟩ := List.append_eq_nil_iff.1 hr
    exact ⟨dir, .here dir, .here dir⟩
  | @turn dir dir' goal name rest ht h ih =>
    cases names with
    | nil =>
      obtain rfl : more = name :: rest := hr
      exact ⟨dir, .here dir, .turn ht h⟩
    | cons n names =>
      obtain ⟨rfl, rfl⟩ := List.cons.inj hr
      obtain ⟨mid, hm, hg⟩ := ih rfl
      exact ⟨mid, .turn ht hm, hg⟩
  | @enter dir goal name rest ht hd h ih =>
    cases names with
    | nil =>
      obtain rfl : more = name :: rest := hr
      exact ⟨dir, .here dir, .enter ht hd h⟩
    | cons n names =>
      obtain ⟨rfl, rfl⟩ := List.cons.inj hr
      obtain ⟨mid, hm, hg⟩ := ih rfl
      exact ⟨mid, .enter ht hd hm, hg⟩
  | @link dir goal name target rest ht hl h ih =>
    cases names with
    | nil =>
      obtain rfl : more = name :: rest := hr
      exact ⟨dir, .here dir, .link ht hl h⟩
    | cons n names =>
      obtain ⟨rfl, rfl⟩ := List.cons.inj hr
      obtain ⟨mid, hm, hg⟩ := ih (List.append_assoc _ _ _)
      exact ⟨mid, .link ht hl hm, hg⟩

theorem suffix_of_leads {dir goal : Location} {names : List String}
    (h : Leads fs dir names goal) (hu : ".." ∉ names)
    (hd : ∀ loc, dir <:+ loc → fs.lookup loc = none) : dir <:+ goal := by
  induction h with
  | here dir => exact List.suffix_refl dir
  | @turn dir dir' goal name rest ht _ ih =>
    obtain rfl := turn?_eq_some ht fun he => hu (by simp [he])
    exact ih (fun hm => hu (by simp [hm])) hd
  | @enter dir goal name rest _ _ _ ih =>
    have hs : dir <:+ name :: dir := List.suffix_cons name dir
    exact hs.trans (ih (fun hm => hu (by simp [hm])) fun loc hl => hd loc (hs.trans hl))
  | @link dir goal name target rest _ hl _ _ =>
    rw [hd (name :: dir) (List.suffix_cons name dir)] at hl
    simp at hl

end Leading

/-- A later state in which a route can be followed only where it could before, or
where nothing was. -/
structure Within (later fs : FileSystem) : Prop where
  here_eq : later.here = fs.here
  directory : ∀ loc mode, later.lookup loc = some (.directory mode) → fs.Passable loc
  link : ∀ loc target, later.lookup loc = some (.link target) →
    fs.lookup loc = some (.link target)

theorem within_refl (fs : FileSystem) : Within fs fs where
  here_eq := rfl
  directory _ mode h := .inr ⟨mode, h⟩
  link _ _ h := h

section Finding

variable {fs later : FileSystem}

/-- What the search has to come to for a list of names. -/
def Finds (fs : FileSystem) (dir : Location) (names : List String) : Place → Prop
  | .directory _ => True
  | .name goal name _ => ∃ init, names = init ++ [name] ∧ turn? goal name = none ∧
      Leads fs dir init goal

theorem finds_cons {dir dir' : Location} {name : String} {rest : List String} {place : Place}
    (names : List String) (h : Finds fs dir' (names ++ rest) place) (hr : names = [] ∨ rest ≠ [])
    (hl : ∀ init goal, Leads fs dir' (names ++ init) goal → Leads fs dir (name :: init) goal) :
    Finds fs dir (name :: rest) place := by
  cases place with
  | directory => trivial
  | name goal last slash =>
    obtain ⟨init, hi, ht, hg⟩ := h
    have hne : rest ≠ [] := by
      rintro rfl
      rcases hr with rfl | hr
      · simp at hi
      · exact hr rfl
    rw [← List.dropLast_concat_getLast hne, ← List.append_assoc] at hi
    obtain ⟨rfl, hlast⟩ := List.append_inj' hi rfl
    refine ⟨name :: rest.dropLast, ?_, ht, hl _ _ hg⟩
    rw [List.cons_append, ← hlast, List.dropLast_concat_getLast hne]

theorem lookup_of_child? {dir : Location} {name : String} {found : Option Entry}
    (h : fs.child? dir name = .ok found) : fs.lookup (name :: dir) = found := by
  unfold child? at h
  split at h <;> simp_all

section Searching

variable {ending : Ending} {follow : Location → Bool → List String → Except Cause Place}
  {dir : Location} {slash : Bool} {name : String} {rest : List String}

theorem findVia_closed (hne : name ≠ "") (hg : fs.grants .search dir = false) :
    fs.findVia ending follow dir slash (name :: rest) = .error .permissionDenied := by
  rw [findVia]
  · simp [hg]
  · exact hne

theorem findVia_turn {dir' : Location} (hg : fs.grants .search dir = true)
    (ht : turn? dir name = some dir') : fs.findVia ending follow dir slash (name :: rest) =
      fs.findVia ending follow dir' slash rest := by
  by_cases hne : name = ""
  · obtain rfl : dir = dir' := by simpa [turn?, hne] using ht
    rw [hne, findVia]
  rw [findVia]
  · by_cases hd : name = "."
    · obtain rfl : dir = dir' := by simpa [turn?, hd] using ht
      simp [hg, hd]
    by_cases hu : name = ".."
    · obtain rfl : dir.tail = dir' := by simpa [turn?, hu] using ht
      simp [hg, hu]
    · simp [turn?, hne, hd, hu] at ht
  · exact hne

theorem findVia_last (hg : fs.grants .search dir = true) (ht : turn? dir name = none) :
    fs.findVia ending follow dir slash [name] =
      match ending != .keep && !slash, fs.lookup (name :: dir) with
      | true, some (.link target) => follow ((Path.route target).start dir)
          ((Path.route target).openSlash ending) ((Path.route target).steps ending)
      | _, _ => .ok (.name dir name slash) := by
  obtain ⟨hne, hd, hu⟩ := turn?_eq_none.1 ht
  have hopen : ¬ (!fs.grants .search dir) = true := by simp [hg]
  rw [findVia]
  · exact (if_neg hopen).trans ((if_neg hd).trans ((if_neg hu).trans (if_pos rfl)))
  · exact hne

theorem findVia_inner (hg : fs.grants .search dir = true) (ht : turn? dir name = none)
    (hr : rest ≠ []) : fs.findVia ending follow dir slash (name :: rest) =
      match fs.child? dir name with
      | .error cause => .error cause
      | .ok none => .error .notFound
      | .ok (some (.directory _)) => fs.findVia ending follow (name :: dir) slash rest
      | .ok (some (.link target)) =>
        follow ((Path.route target).start dir) slash ((Path.route target).names ++ rest)
      | .ok (some _) => .error .notADirectory := by
  obtain ⟨hne, hd, hu⟩ := turn?_eq_none.1 ht
  have hopen : ¬ (!fs.grants .search dir) = true := by simp [hg]
  rw [findVia]
  · exact (if_neg hopen).trans ((if_neg hd).trans ((if_neg hu).trans (if_neg hr)))
  · exact hne

theorem findVia_cons {place : Place} (hne : name ≠ "") :
    fs.findVia .keep follow dir slash (name :: rest) = .ok place ↔
      fs.grants .search dir = true ∧
        ((∃ dir', turn? dir name = some dir' ∧ fs.findVia .keep follow dir' slash rest = .ok place) ∨
          turn? dir name = none ∧ (rest = [] ∧ place = .name dir name slash ∨
            rest ≠ [] ∧ ((∃ mode, fs.child? dir name = .ok (some (.directory mode))) ∧
                fs.findVia .keep follow (name :: dir) slash rest = .ok place ∨
              ∃ target, fs.child? dir name = .ok (some (.link target)) ∧
                follow ((Path.route target).start dir) slash ((Path.route target).names ++ rest) =
                  .ok place))) := by
  cases hg : fs.grants .search dir with
  | false => simp [findVia_closed hne hg]
  | true =>
    cases ht : turn? dir name with
    | some dir' => simp [findVia_turn hg ht]
    | none =>
      by_cases hr : rest = []
      · subst hr
        simp [findVia_last hg ht, eq_comm]
      · rw [findVia_inner hg ht hr]
        cases hc : fs.child? dir name with
        | error cause => simp [hr]
        | ok found =>
          match found with
          | none => simp [hr]
          | some (.directory mode) => simp [hr]
          | some (.link target) => simp [hr]
          | some (.file _ _) => simp [hr]
          | some (.device _) => simp [hr]

end Searching

theorem findVia_finds (hw : Within later fs)
    {follow : Location → Bool → List String → Except Cause Place}
    (hf : ∀ dir slash names place, follow dir slash names = .ok place → Finds fs dir names place)
    {dir : Location} {slash : Bool} {names : List String} {place : Place}
    (h : later.findVia .keep follow dir slash names = .ok place) : Finds fs dir names place := by
  -- The names get fewer except where a link is followed, and there `hf` speaks for the rest.
  induction names generalizing dir with
  | nil =>
    obtain rfl : .directory dir = place := by simpa [findVia] using h
    trivial
  | cons name rest ih =>
    by_cases hne : name = ""
    · subst hne
      exact finds_cons [] (ih h) (.inl rfl) fun _ _ => .turn (by simp [turn?])
    obtain ⟨-, ⟨dir', ht, h⟩ | ⟨ht, h⟩⟩ := (findVia_cons hne).1 h
    · exact finds_cons [] (ih h) (.inl rfl) fun _ _ => .turn ht
    rcases h with ⟨rfl, rfl⟩ | ⟨hr, ⟨⟨mode, hd⟩, h⟩ | ⟨target, hl, h⟩⟩
    · exact ⟨[], rfl, ht, .here dir⟩
    · have hpassable := hw.directory _ mode (lookup_of_child? hd)
      exact finds_cons [] (ih h) (.inl rfl) fun _ _ => .enter ht hpassable
    · have hlink := hw.link _ target (lookup_of_child? hl)
      exact finds_cons _ (hf _ _ _ _ h) (.inr hr) fun _ _ => .link ht hlink

theorem find_finds (hw : Within later fs) {links : Nat} {dir : Location} {slash : Bool}
    {names : List String} {place : Place} (h : later.find .keep links dir slash names = .ok place) :
    Finds fs dir names place := by
  induction links generalizing dir slash names place with
  | zero => exact findVia_finds hw (by simp) h
  | succ links ih => exact findVia_finds hw (fun _ _ _ _ hf => ih hf) h

theorem resolve_finds (hw : Within later fs) {path : String} {place : Place}
    (h : later.resolve .keep path = .ok place) :
    Finds fs ((Path.route path).start fs.here) (Path.route path).names place := by
  unfold resolve at h
  cases hb : badPath? path with
  | some cause => simp [hb] at h
  | none =>
    have hs : (Path.route path).steps .keep = (Path.route path).names := by
      simp [Path.Route.steps]
    rw [hb] at h
    simp only [hs, hw.here_eq] at h
    exact find_finds hw h

end Finding

/-- The location of the entry that a path names, or would name were the missing
directories on its way there. -/
def Aim (fs : FileSystem) (path : String) (loc : Location) : Prop :=
  ∃ init name dir, (Path.route path).names = init ++ [name] ∧ turn? dir name = none ∧
    Leads fs ((Path.route path).start fs.here) init dir ∧ loc = name :: dir

theorem aim_unique {fs : FileSystem} {path : String} {loc loc' : Location} (h : fs.Aim path loc)
    (h' : fs.Aim path loc') : loc = loc' := by
  obtain ⟨init, name, dir, hn, -, hl, rfl⟩ := h
  obtain ⟨init', name', dir', hn', -, hl', rfl⟩ := h'
  obtain ⟨rfl, hname⟩ := List.append_inj' (hn.symm.trans hn') rfl
  rw [leads_unique hl hl', List.singleton_inj.1 hname]

theorem target_iff {fs : FileSystem} {path name : String} {cause : Cause} {dir : Location}
    {slash : Bool} {found : Option Entry} :
    fs.target path cause = .ok (dir, name, slash, found) ↔
      fs.resolve .keep path = .ok (.name dir name slash) ∧ fs.child? dir name = .ok found := by
  unfold target
  cases hr : fs.resolve .keep path with
  | error _ => simp [bind, Except.bind]
  | ok place =>
    cases place with
    | directory loc => simp [bind, Except.bind, throw, throwThe, MonadExceptOf.throw]
    | name dir' name' slash' =>
      cases hc : fs.child? dir' name' with
      | error _ =>
        simp only [hc, bind, Except.bind, reduceCtorEq, Except.ok.injEq, Place.name.injEq, false_iff,
          not_and]
        rintro ⟨rfl, rfl, rfl⟩
        simp [hc]
      | ok found' =>
        simp only [hc, bind, Except.bind, pure, Except.pure, Except.ok.injEq, Prod.mk.injEq,
          Place.name.injEq]
        constructor
        · rintro ⟨rfl, rfl, rfl, rfl⟩
          exact ⟨⟨rfl, rfl, rfl⟩, hc⟩
        · rintro ⟨⟨rfl, rfl, rfl⟩, h⟩
          exact ⟨rfl, rfl, rfl, Except.ok.inj (hc.symm.trans h)⟩

theorem target_ok {fs : FileSystem} {path name : String} {cause : Cause} {dir : Location}
    {slash : Bool} {found : Option Entry}
    (h : fs.target path cause = .ok (dir, name, slash, found)) :
    fs.resolve .keep path = .ok (.name dir name slash) ∧ fs.lookup (name :: dir) = found := by
  obtain ⟨hr, hc⟩ := target_iff.1 h
  exact ⟨hr, lookup_of_child? hc⟩

theorem aim_of_resolve {fs later : FileSystem} (hw : Within later fs) {path name : String}
    {dir : Location} {slash : Bool} (h : later.resolve .keep path = .ok (.name dir name slash)) :
    fs.Aim path (name :: dir) := by
  obtain ⟨init, hn, ht, hlead⟩ := resolve_finds hw h
  exact ⟨init, name, dir, hn, ht, hlead, rfl⟩

theorem aim_of_target {fs later : FileSystem} (hw : Within later fs) {path name : String}
    {cause : Cause} {dir : Location} {slash : Bool} {found : Option Entry}
    (h : later.target path cause = .ok (dir, name, slash, found)) :
    fs.Aim path (name :: dir) ∧ later.lookup (name :: dir) = found := by
  obtain ⟨hr, hl⟩ := target_ok h
  exact ⟨aim_of_resolve hw hr, hl⟩

theorem aim_of_destination {fs later : FileSystem} (hw : Within later fs) {path : String}
    {loc : Location} (h : later.destination? path = some loc) : fs.Aim path loc := by
  unfold destination? at h
  cases ht : later.target path .notFound with
  | error cause => simp [ht] at h
  | ok found =>
    obtain ⟨dir, name, slash, entry⟩ := found
    rw [ht] at h
    obtain rfl := Option.some.inj h
    exact (aim_of_target hw ht).1

end FileSystem

end Understudy
