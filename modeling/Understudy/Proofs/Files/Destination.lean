import Understudy.Proofs.Files.InPlace

/-!
# Where a successful write ends

A write that goes through ends at a file name: no slash and no dot comes after it,
and the entry of that name is the one that was replaced or opened (`write_settles`).
A path says nothing else by its letters, so one without a file name, and one that
asks for a directory, cannot be written to.
-/

set_option autoImplicit false

namespace Understudy

namespace Path

theorem endsInSlash_of_slash (before : String) : endsInSlash (before ++ "/") = true := by
  simp [endsInSlash]

theorem names_of_dot (before : String) :
    ∃ init, (route (before ++ "/.")).names = init ++ ["."] := by
  have hpath : before ++ "/." = before ++ "/" ++ "." := by rw [String.append_assoc]; rfl
  have hdot : pieces "." = ["."] := pieces_of_slash_not_mem (by decide)
  refine ⟨(pieces before).filter (· ≠ ""), ?_⟩
  show (pieces _).filter (· ≠ "") = _
  rw [hpath, pieces_append_slash, hdot, List.filter_append]
  rfl

end Path

namespace FileSystem

variable {path : String} {encoding : Encoding} {c : Content} {fs made later : FileSystem}
  {loc : Location}

/-- The entry at a location is what a write to a path has come to. An atomic write has put
a file with the bytes there. A direct write has filled the file there or, when the entry
is a link, the file that it opened through it. The null device takes the bytes in the same
way, and neither it nor a link to it changes. -/
inductive Settled (path : String) (bytes : List UInt8) (fs later : FileSystem) (loc : Location) :
    WriteMode → Prop
  | replaced {mode : Nat} :
      later.lookup loc = some (.file bytes mode) → Settled path bytes fs later loc .atomic
  | filled {mode : Nat} :
      fs.opensAt? path = some loc → later.lookup loc = some (.file bytes mode) →
      Settled path bytes fs later loc .direct
  | through {goal : Location} {target : String} {mode : Nat} :
      fs.lookup loc = some (.link target) → later.lookup loc = some (.link target) →
      fs.opensAt? path = some goal → later.lookup goal = some (.file bytes mode) →
      Settled path bytes fs later loc .direct
  | taken :
      fs.opensAt? path = none → later.lookup loc = fs.lookup loc →
      later.status path = .ok (.device .null) →
      Settled path bytes fs later loc .direct

theorem not_aim_of_dot {before : String} (h : path = before ++ "/.") : ¬ fs.Aim path loc := by
  rintro ⟨init, name, dir, hn, ht, -, -⟩
  obtain ⟨init', hdot⟩ := Path.names_of_dot before
  rw [h, hdot] at hn
  obtain ⟨-, hname⟩ := List.append_inj' hn.symm rfl
  exact (turn?_eq_none.1 ht).2.1 (List.singleton_inj.1 hname)

theorem writeAtomic_settles {above : List String} (hg : Grown above fs made)
    (h : writeAtomic path encoding c made = .ok () later) :
    Path.endsInSlash path = false ∧ ∃ loc, fs.Aim path loc ∧
      Settled path (Text.bytes c.text) fs later loc .atomic := by
  have ha := writeAtomic_attempt path encoding c made
  rw [h] at ha
  obtain ⟨loc, mode, haim, hl, -⟩ := attempt_spares (within_of_grown hg) ha
  cases ha with
  | moved hf hr hm =>
    obtain ⟨dir, name, found, entry, ht, -⟩ := rename_ok hm
    exact ⟨(resolve_slash (target_ok ht).1).symm, loc, haim, .replaced hl⟩

theorem writeDirect_settles {above : List String} (hg : Grown above fs made)
    (hm : makeDirectories (Path.directory path) fs = .ok () made) (hne : c.text ≠ "")
    (h : writeDirect path encoding c made = .ok () later) :
    Path.endsInSlash path = false ∧ ∃ loc, fs.Aim path loc ∧
      Settled path (Text.bytes c.text) fs later loc .direct := by
  obtain ⟨handle, opened, ho, hf⟩ := writeDirect_ok h
  cases handle with
  | device kind =>
    obtain ⟨rfl, rfl⟩ := fill_device hne hf
    obtain ⟨dir, name, found, hr, hc, hopened⟩ := openForWriting_ok ho
    obtain ⟨named, hn, hcontinues⟩ := resolve_keep (.inl (by decide)) hr
    cases hopened
    -- The path names the device or a link to it, and no directory was made there.
    have hnamed : ∃ goal last slash, named = .name goal last slash ∧
        ∀ mode, made.lookup (last :: goal) ≠ some (.directory mode) := by
      cases hcontinues with
      | stay => exact ⟨dir, name, _, rfl, by simp [lookup_of_child? hc]⟩
      | onto hlink _ => exact ⟨_, _, _, rfl, by simp [hlink]⟩
    obtain ⟨goal, last, slash, rfl, hd⟩ := hnamed
    have hopens : fs.opensAt? path = none := by simp [opensAt?, hm, ho]
    refine ⟨(resolve_follow hr).1, last :: goal, aim_of_resolve (within_of_grown hg) hn,
      .taken hopens ?_ (status_of_create hr hc)⟩
    rcases hg.spared (last :: goal) with he | ⟨-, ⟨mode, hmade⟩, -⟩
    · exact he
    · exact absurd hmade (hd mode)
  | file goal =>
    have hopens : fs.opensAt? path = some goal := by simp [opensAt?, hm, ho]
    obtain ⟨dir, name, found, rfl, hr, hc, hfound, rfl⟩ := opened_file ho
    obtain ⟨hrest, hfile⟩ := appends_frame (fill_file_ok hf)
    have hfilled := hfile [] _ (lookup_place_self made _ (List.cons_ne_nil name dir))
    obtain ⟨named, hn, hcontinues⟩ := resolve_keep (.inl (by decide)) hr
    refine ⟨(resolve_follow hr).1, ?_⟩
    cases hcontinues with
    | stay => exact ⟨name :: dir, aim_of_resolve (within_of_grown hg) hn, .filled hopens hfilled⟩
    | @onto dir' name' target _ _ _ hlink _ =>
      -- The link is another entry than the file, which nothing or a file was before.
      have hother : name' :: dir' ≠ name :: dir := by
        intro he
        rw [he, lookup_of_child? hc] at hlink
        exact (plain_of_file hfound).2 target hlink
      have hstays : later.lookup (name' :: dir') = some (.link target) := by
        rw [hrest.lookup_eq _ hother, lookup_place_of_ne made _ hother, hlink]
      exact ⟨name' :: dir', aim_of_resolve (within_of_grown hg) hn,
        .through ((within_of_grown hg).link _ _ hlink) hstays hopens hfilled⟩

/-- Where a write that goes through ends. That there is something to write rules out the
full device, which can be opened and takes nothing. -/
theorem write_settles {rules : Rules} (hne : c.text ≠ "")
    (h : write path c rules fs = .ok () later) :
    Path.endsInSlash path = false ∧ ∃ name dir, Path.fileName? path = some name ∧
      fs.Aim path (name :: dir) ∧
      Settled path (Text.bytes c.text) fs later (name :: dir) rules.mode := by
  obtain ⟨made, hm, hw⟩ := write_ok h
  have hg := makeDirectories_grown path fs
  rw [hm] at hg
  have hsettled : Path.endsInSlash path = false ∧ ∃ loc, fs.Aim path loc ∧
      Settled path (Text.bytes c.text) fs later loc rules.mode := by
    cases hmode : rules.mode with
    | direct =>
      rw [hmode] at hw
      exact writeDirect_settles hg hm hne hw
    | atomic =>
      rw [hmode] at hw
      exact writeAtomic_settles hg hw
  obtain ⟨hslash, loc, ha, hs⟩ := hsettled
  obtain ⟨name, dir, hname, rfl⟩ := fileName?_of_aim ha
  exact ⟨hslash, name, dir, hname, ha, hs⟩

end FileSystem

end Understudy
