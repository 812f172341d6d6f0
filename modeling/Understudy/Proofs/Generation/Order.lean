import Understudy.Proofs.Generation.Units
import Understudy.Proofs.Rendering.Schedules

/-!
# The order of the declarations

Valid settings name each type once, so the types that are rendered come in one
order however they are declared. A generation then depends neither on the order
of the declarations nor on the number of workers, and the failure it reports is
that of the first type by name that has one.
-/

set_option autoImplicit false

namespace Understudy.Settings

variable {s : Settings} {render : Mock.Renderer} {types : List Mock.Descriptor}
  {jobs : Option Nat}

theorem execution_of_pool {workers : Nat} {p : Pool}
    (h : Pool.Reached workers render s.units p) (hf : p.finished = true) :
    p.toExecution = s.execute render :=
  Pool.toExecution_of_finished (Pool.reached_orderly h) hf

theorem verdict_of_assemble {failure : Failure} (h : s.assemble render = .error failure) :
    Verdict render s.units (.error failure) := by
  have hv := collect_verdict render s.units
  rwa [assemble_eq_error.1 h] at hv

theorem failure_of_assemble (hn : (s.types.map (·.name)).Nodup) {failure : Failure}
    (h : s.assemble render = .error failure) :
    ∃ position cause d, failure = .notRendered position cause ∧ s.units[position]? = some d ∧
      (render d).FailsWith cause ∧
      ∀ e ∈ s.units, ∀ other, (render e).FailsWith other →
        e = d ∨ Text.before d.name e.name = true := by
  cases verdict_of_assemble h with
  | @failed position d cause hd hfails hbefore =>
    refine ⟨position, cause, d, rfl, hd, hfails, fun e he other hother => ?_⟩
    obtain ⟨i, hi⟩ := List.mem_iff_getElem?.1 he
    have hle : position ≤ i := by
      apply Nat.le_of_not_lt
      intro hlt
      obtain ⟨t, ht⟩ := hbefore i e hlt hi
      rw [ht] at hother
      cases hother
    rcases Nat.eq_or_lt_of_le hle with rfl | hlt
    · exact .inl (Option.some.inj (hi.symm.trans hd))
    · obtain ⟨hdl, rfl⟩ := List.getElem?_eq_some_iff.1 hd
      obtain ⟨hel, rfl⟩ := List.getElem?_eq_some_iff.1 hi
      exact .inr (List.pairwise_iff_getElem.1 (ascending_units hn) position i hdl hel hlt)

section Reordered

variable (hn : (s.types.map (·.name)).Nodup) (hp : types.Perm s.types)

include hn hp

theorem units_reordered : { s with types, jobs }.units = s.units :=
  units_eq_of_perm hn hp rfl

theorem assemble_reordered : { s with types, jobs }.assemble render = s.assemble render := by
  have hdocument : { s with types, jobs }.documentOf = s.documentOf := by
    funext results
    rw [documentOf, documentOf, units_reordered hn hp, hp.length_eq]
    rfl
  rw [assemble_eq, assemble_eq, units_reordered hn hp, hdocument]

theorem preview_reordered : { s with types, jobs }.preview render = s.preview render := by
  rw [preview, assemble_reordered hn hp, ← preview]

theorem generate_reordered : { s with types, jobs }.generate render = s.generate render := by
  rw [generate, generate, assemble_reordered hn hp]
  rfl

end Reordered

/-- Valid settings give the same generation in whatever order they declare the types
and whatever the number of workers. A failure is at a position among the rendered
types, and of all selected types that fail this is the first by name. -/
theorem generation_ignores_order (s : Settings) (types : List Mock.Descriptor) (jobs : Option Nat)
    (render : Mock.Renderer) (hv : s.invalid? = none) (hp : types.Perm s.types) :
    let t : Settings := { s with types, jobs }
    t.units = s.units ∧ t.assemble render = s.assemble render ∧
      t.preview render = s.preview render ∧ t.generate render = s.generate render ∧
      (∀ cores p, Pool.Reached (t.jobs.getD cores) render t.units p → p.finished = true →
        p.toExecution = s.execute render) ∧
      ∀ failure, t.assemble render = .error failure →
        ∃ position cause d, failure = .notRendered position cause ∧
          t.units[position]? = some d ∧ (render d).FailsWith cause ∧
          ∀ e ∈ t.types, t.selects e = true → ∀ other, (render e).FailsWith other →
            e = d ∨ Text.before d.name e.name = true := by
  intro t
  have hn := nodup_of_valid hv
  have hunits : t.units = s.units := units_reordered hn hp
  have hassemble : t.assemble render = s.assemble render := assemble_reordered hn hp
  refine ⟨hunits, hassemble, preview_reordered hn hp, generate_reordered hn hp, ?_, ?_⟩
  · intro cores p hr hf
    rw [hunits] at hr
    exact execution_of_pool hr hf
  · intro failure hfailure
    rw [hassemble] at hfailure
    obtain ⟨position, cause, d, rfl, hd, hfails, hfirst⟩ := failure_of_assemble hn hfailure
    refine ⟨position, cause, d, rfl, by rw [hunits, hd], hfails, fun e he hs => hfirst e ?_⟩
    rw [← hunits]
    exact mem_units.2 ⟨he, hs⟩

/-- Declared last and first by name of those that fail, and reported by its position
among three units, of which another fails as well. -/
theorem last_declared_failure_reported :
    let till : Mock.Descriptor := ⟨"Till", .protocolType, []⟩
    let cart : Mock.Descriptor := ⟨"Cart", .protocolType, []⟩
    let bag : Mock.Descriptor := ⟨"Bag", .protocolType, []⟩
    let api : Mock.Descriptor := ⟨"Api", .classType, []⟩
    let s : Settings :=
      { moduleName := "Shop", onlyProtocols := true, types := [api, bag, cart, till] }
    let render : Mock.Renderer := fun d =>
      if d = bag then .text "mock" else if d = cart then .panicked .other else .refused "no"
    s.invalid? = none ∧ [till, api, bag, cart].Perm s.types ∧
      { s with types := [till, api, bag, cart], jobs := some 2 }.units = [bag, cart, till] ∧
      { s with types := [till, api, bag, cart], jobs := some 2 }.assemble render =
        .error (.notRendered 1 "renderer panicked: unknown panic payload") := by
  intro till cart bag api s render
  have hv : s.invalid? = none := by decide
  have hp : [till, api, bag, cart].Perm s.types := by decide
  obtain ⟨hunits, hassemble, -⟩ :=
    generation_ignores_order s [till, api, bag, cart] (some 2) render hv hp
  have hs : s.units = [bag, cart, till] := Text.sortedBy_eq_self _ (by decide)
  refine ⟨hv, hp, hunits.trans hs, ?_⟩
  rw [hassemble, assemble_eq, hs]
  rfl

end Understudy.Settings
