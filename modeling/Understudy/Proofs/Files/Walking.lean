import Understudy.Proofs.Files.Grounding
import Understudy.Proofs.Files.Passage

/-!
# Walks in changing file systems

A walk goes through directories and links. In a state that has kept them
(`Keeps`) it comes to the same place, whatever became of the files
(`resolve_keeps`). Whether a link at the end is followed makes no difference when
there is none (`resolve_eq_keep`), and then the place that a path names is the
place where it is read (`status_of_target`).
-/

set_option autoImplicit false

namespace Understudy.FileSystem

/-- All directories and links are still there. -/
structure Keeps (fs later : FileSystem) : Prop where
  here_eq : later.here = fs.here
  directory : ∀ loc mode, fs.lookup loc = some (.directory mode) →
    later.lookup loc = some (.directory mode)
  link : ∀ loc target, fs.lookup loc = some (.link target) →
    later.lookup loc = some (.link target)

section Keeping

variable {fs later : FileSystem} {loc dir : Location}

theorem keeps_of_onlyAt (ho : OnlyAt loc fs later)
    (hd : ∀ mode, fs.lookup loc ≠ some (.directory mode))
    (hl : ∀ target, fs.lookup loc ≠ some (.link target)) : Keeps fs later where
  here_eq := ho.here_eq
  directory other mode h := by
    rw [ho.lookup_eq other fun he => hd mode (he ▸ h), h]
  link other target h := by
    rw [ho.lookup_eq other fun he => hl target (he ▸ h), h]

theorem grants_keeps (hk : Keeps fs later) (hd : fs.DirectoryAt dir) (access : Access) :
    later.grants access dir = fs.grants access dir := by
  obtain ⟨mode, h⟩ := hd
  rw [grants, grants, h, hk.directory dir mode h]

theorem child?_of_child? {name : String} {found entry : Option Entry}
    (hc : fs.child? dir name = .ok found) (hl : later.lookup (name :: dir) = entry) :
    later.child? dir name = .ok entry := by
  unfold child? at hc ⊢
  split
  · rename_i h
    simp [h] at hc
  · rw [hl]

/-- The walk does not end at a link. -/
def Unlinked (fs : FileSystem) (walk : Except Cause Place) : Prop :=
  ∀ dir name slash target, walk = .ok (.name dir name slash) →
    fs.lookup (name :: dir) ≠ some (.link target)

theorem unlinked_of_lookup {name : String} {slash : Bool} {found : Option Entry}
    (h : fs.lookup (name :: dir) = found) (hl : ∀ target, found ≠ some (.link target)) :
    fs.Unlinked (.ok (.name dir name slash)) := by
  intro dir' name' slash' target he
  obtain ⟨rfl, rfl, -⟩ := Place.name.inj (Except.ok.inj he)
  rw [h]
  exact hl target

theorem passage_keeps (hk : Keeps fs later) (hg : fs.Grounded) {ending : Ending} {links : Nat}
    {slash : Bool} {names : List String} {place : Place}
    (h : Passage fs ending links dir slash names place) (hd : fs.DirectoryAt dir)
    (hu : ending = .keep ∨ later.Unlinked (.ok place)) :
    Passage later ending links dir slash names place := by
  induction h with
  | here links dir slash => exact .here links dir slash
  | blank _ ih => exact .blank (ih hd hu)
  | turn hne hs ht _ ih =>
    rw [← grants_keeps hk hd] at hs
    exact .turn hne hs ht (ih (directoryAt_turn hg hd ht) hu)
  | stop hs ht _ =>
    rw [← grants_keeps hk hd] at hs
    refine .stop hs ht ?_
    rcases hu with hkeep | hu
    · exact .inl hkeep
    · exact .inr (.inr fun target => hu _ _ _ target rfl)
  | last hs ht he hl _ ih =>
    rw [← grants_keeps hk hd] at hs
    exact .last hs ht he (hk.link _ _ hl) (ih (directoryAt_start _ hd) hu)
  | enter hs ht hr hc _ ih =>
    rw [← grants_keeps hk hd] at hs
    have hl := lookup_of_child? hc
    exact .enter hs ht hr (child?_of_child? hc (hk.directory _ _ hl)) (ih ⟨_, hl⟩ hu)
  | link hs ht hr hc _ ih =>
    rw [← grants_keeps hk hd] at hs
    have hc' := child?_of_child? hc (hk.link _ _ (lookup_of_child? hc))
    exact .link hs ht hr hc' (ih (directoryAt_start _ hd) hu)

theorem resolve_stays (hk : Keeps fs later) (hs : Standing fs) {ending : Ending} {path : String}
    {place : Place} (h : fs.resolve ending path = .ok place)
    (hu : ending = .keep ∨ later.Unlinked (.ok place)) : later.resolve ending path = .ok place := by
  obtain ⟨hb, hp⟩ := resolve_iff.1 h
  refine resolve_iff.2 ⟨hb, ?_⟩
  rw [hk.here_eq]
  exact passage_keeps hk hs.grounded hp (directoryAt_start _ hs.here) hu

theorem resolve_keeps (hk : Keeps fs later) (hs : Standing fs) {path : String} {place : Place}
    (h : fs.resolve .keep path = .ok place) : later.resolve .keep path = .ok place :=
  resolve_stays hk hs h (.inl rfl)

end Keeping

section Endings

variable {fs : FileSystem} {dir : Location} {slash : Bool} {names : List String} {path : String}

theorem findVia_eq_keep {ending : Ending}
    {follow follow' : Location → Bool → List String → Except Cause Place}
    (hf : ∀ dir slash names, fs.Unlinked (follow dir slash names) →
      follow' dir slash names = follow dir slash names)
    (hu : fs.Unlinked (fs.findVia .keep follow dir slash names)) :
    fs.findVia ending follow' dir slash names = fs.findVia .keep follow dir slash names := by
  induction names generalizing dir with
  | nil => rfl
  | cons name rest ih =>
    by_cases hne : name = ""
    · subst hne
      exact ih hu
    cases hg : fs.grants .search dir with
    | false => rw [findVia_closed hne hg, findVia_closed hne hg]
    | true =>
      cases ht : turn? dir name with
      | some dir' =>
        rw [findVia_turn hg ht] at hu
        rw [findVia_turn hg ht, findVia_turn hg ht]
        exact ih hu
      | none =>
        by_cases hr : rest = []
        · subst hr
          have hkeep : fs.findVia .keep follow dir slash [name] = .ok (.name dir name slash) := by
            simp [findVia_last hg ht]
          rw [hkeep, findVia_last hg ht]
          split
          · exact absurd (by assumption) (hu _ _ _ _ hkeep)
          · rfl
        · rw [findVia_inner hg ht hr] at hu
          rw [findVia_inner hg ht hr, findVia_inner hg ht hr]
          split
          · rfl
          · rfl
          · rename_i hc
            rw [hc] at hu
            exact ih hu
          · rename_i hc
            rw [hc] at hu
            exact hf _ _ _ hu
          · rfl

theorem find_eq_keep {ending : Ending} {links : Nat}
    (hu : fs.Unlinked (fs.find .keep links dir slash names)) :
    fs.find ending links dir slash names = fs.find .keep links dir slash names := by
  induction links generalizing dir slash names with
  | zero => exact findVia_eq_keep (fun _ _ _ _ => rfl) hu
  | succ links ih => exact findVia_eq_keep (fun _ _ _ hf => ih hf) hu

theorem resolve_eq_keep {ending : Ending} (hs : ending ≠ .follow ∨ (Path.route path).slash = false)
    (hu : fs.Unlinked (fs.resolve .keep path)) :
    fs.resolve ending path = fs.resolve .keep path := by
  have hends : (Path.route path).openSlash ending = (Path.route path).openSlash .keep ∧
      (Path.route path).steps ending = (Path.route path).steps .keep := by
    cases ending with
    | follow =>
      rcases hs with he | hs
      · exact absurd rfl he
      · simp [Path.Route.openSlash, Path.Route.steps, hs]
    | create => exact ⟨rfl, rfl⟩
    | keep => exact ⟨rfl, rfl⟩
  unfold resolve at hu ⊢
  cases hb : badPath? path with
  | some cause => rfl
  | none =>
    simp only [hb] at hu
    simp only [hends.1, hends.2]
    exact find_eq_keep hu

theorem passage_slash {links : Nat} {place : Place}
    (h : Passage fs .keep links dir slash names place) {goal : Location} {name : String}
    {last : Bool} (hp : place = .name goal name last) : last = slash := by
  induction h with
  | here => cases hp
  | stop => exact (Place.name.inj hp).2.2.symm
  | last _ _ he => exact absurd rfl he
  | blank _ ih => exact ih hp
  | turn _ _ _ _ ih => exact ih hp
  | enter _ _ _ _ _ ih => exact ih hp
  | link _ _ _ _ _ ih => exact ih hp

theorem resolve_slash {name : String} (h : fs.resolve .keep path = .ok (.name dir name slash)) :
    slash = (Path.route path).slash := by
  rw [passage_slash (resolve_iff.1 h).2 rfl, Path.Route.openSlash]
  exact Bool.and_true _

end Endings

section Targets

variable {fs later : FileSystem} {path name : String} {cause : Cause} {dir : Location}
  {slash : Bool} {found : Option Entry}

theorem target_keeps (hk : Keeps fs later) (hs : Standing fs)
    (h : fs.target path cause = .ok (dir, name, slash, found)) {found' : Option Entry}
    (hl : later.lookup (name :: dir) = found') (cause' : Cause) :
    later.target path cause' = .ok (dir, name, slash, found') := by
  obtain ⟨hr, hc⟩ := target_iff.1 h
  exact target_iff.2 ⟨resolve_keeps hk hs hr, child?_of_child? hc hl⟩

theorem unlinked_of_target (h : fs.target path cause = .ok (dir, name, slash, found))
    (hl : ∀ target, found ≠ some (.link target)) : fs.Unlinked (fs.resolve .keep path) := by
  obtain ⟨hr, hlookup⟩ := target_ok h
  rw [hr]
  exact unlinked_of_lookup hlookup hl

end Targets

end Understudy.FileSystem
