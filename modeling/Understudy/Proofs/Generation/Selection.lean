import Understudy.Proofs.Generation.Units
import Understudy.Proofs.Rendering.Schedules

/-!
# Classes that are left out

Settings that take only protocols come to what the same settings come to with
the classes deleted. The classes go before anything counts positions, so a class
neither takes a position nor fails, and it is seen only in the number of types
that were left out.
-/

set_option autoImplicit false

namespace Understudy

namespace Settings

/-- The settings that declare no class, and so have nothing to leave out. -/
def withoutClasses (s : Settings) : Settings :=
  { s with types := s.types.filter fun d => d.kind != .classType, onlyProtocols := false }

variable {s : Settings} {render other : Mock.Renderer} {d : Mock.Descriptor}

theorem selects_of_onlyProtocols (h : s.onlyProtocols = true) :
    s.selects = fun d => d.kind != .classType := by
  funext d
  rw [selects, h]
  cases d.kind <;> rfl

theorem filter_selects (h : s.onlyProtocols = false) : s.types.filter s.selects = s.types :=
  List.filter_eq_self.2 fun d _ => by rw [selects, h]; rfl

theorem execute_congr (h : ∀ d ∈ s.units, other d = render d) :
    s.execute other = s.execute render := by
  simp only [execute, Execution.ofUnits, Execution.renderAll_eq, List.map_congr_left h]

section OnlyProtocols

variable (h : s.onlyProtocols = true)

include h

theorem kind_of_mem_units (hd : d ∈ s.units) : d.kind ≠ .classType := by
  have hs := (mem_units.1 hd).2
  rw [selects_of_onlyProtocols h] at hs
  simpa using hs

theorem units_withoutClasses : s.withoutClasses.units = s.units := by
  have htypes : s.withoutClasses.types = s.types.filter s.selects := by
    rw [selects_of_onlyProtocols h]
    rfl
  rw [units_eq, filter_selects rfl, htypes, units_eq]

theorem length_types : s.types.length = s.units.length + s.types.countP (·.kind == .classType) := by
  rw [(perm_units s).length_eq, selects_of_onlyProtocols h, ← List.countP_eq_length_filter,
    List.length_eq_countP_add_countP fun d => d.kind != .classType]
  simp [beq_eq_decide]

theorem documentOf_withoutClasses (results : List Rendered) :
    s.documentOf results = { s.withoutClasses.documentOf results with
      skipped := s.types.countP (·.kind == .classType) } := by
  have hskipped : s.types.length - s.units.length = s.types.countP (·.kind == .classType) := by
    rw [length_types h, Nat.add_sub_cancel_left]
  rw [documentOf, hskipped]
  rfl

theorem assemble_withoutClasses : s.assemble render = (s.withoutClasses.assemble render).map
    fun d => { d with skipped := s.types.countP (·.kind == .classType) } := by
  rw [assemble_eq, assemble_eq, units_withoutClasses h]
  cases Outcome.collect (s.units.map render) with
  | error failure => rfl
  | ok results => exact congrArg Except.ok (documentOf_withoutClasses h results)

end OnlyProtocols

/-- Taking only protocols gives the units, the document and the failure of the settings
without the classes, and counts the classes as left out. No class is ever rendered, so
what the render function does on classes is of no effect. In all settings the units
are the selected types in the order of their names, those of one name as declared. -/
theorem classes_left_out (s : Settings) (render : Mock.Renderer) :
    (s.onlyProtocols = true →
      s.withoutClasses.units = s.units ∧
      s.assemble render = (s.withoutClasses.assemble render).map
        (fun d => { d with skipped := s.types.countP (·.kind == .classType) }) ∧
      (∀ workers p, Pool.Reached workers render s.units p → ∀ position ∈ p.calls,
        ∃ d, s.units[position]? = some d ∧ d.kind ≠ .classType) ∧
      ∀ other : Mock.Renderer, (∀ d, d.kind ≠ .classType → other d = render d) →
        s.execute other = s.execute render) ∧
    s.units.Perm (s.types.filter s.selects) ∧
    s.units.Pairwise (fun d e => Text.before e.name d.name = false) ∧
    ∀ name, s.units.filter (fun d => d.name == name) =
      (s.types.filter s.selects).filter fun d => d.name == name := by
  refine ⟨fun h => ⟨units_withoutClasses h, assemble_withoutClasses h, ?_, ?_⟩, perm_units s,
    pairwise_units s, filter_units s⟩
  · intro workers p hr position hc
    obtain ⟨d, hd, hu⟩ := Pool.unit_of_called (Pool.reached_orderly hr) hc
    exact ⟨d, hu, kind_of_mem_units h hd⟩
  · intro other ho
    exact execute_congr fun d hd => ho d (kind_of_mem_units h hd)

/-- A class between the protocols by name takes no position and does not fail, though
the render function panics on it. One name is declared twice. -/
theorem panicking_class_left_out :
    let bag : Mock.Descriptor := ⟨"Bag", .protocolType, []⟩
    let cart : Mock.Descriptor := ⟨"Cart", .classType, []⟩
    let till : Mock.Descriptor := ⟨"Till", .protocolType, ["func open()"]⟩
    let again : Mock.Descriptor := ⟨"Till", .protocolType, []⟩
    let s : Settings := { onlyProtocols := true, types := [till, cart, again, bag] }
    let render : Mock.Renderer := fun d =>
      if d = cart then .panicked .other else if d = again then .refused "no" else .text "mock"
    s.onlyProtocols = true ∧ s.units = [bag, till, again] ∧
      s.assemble render = .error (.notRendered 2 "no") ∧
      (s.assemble fun _ => .text "mock").map (fun d => (d.rendered, d.skipped)) = .ok (3, 1) := by
  intro bag cart till again s render
  obtain ⟨hclasses, -⟩ := classes_left_out s render
  obtain ⟨hunits, hassemble, -, -⟩ := hclasses rfl
  have hs : s.withoutClasses.units = [bag, till, again] := by
    apply Text.sortedBy_eq
    · decide
    · intro name
      by_cases hname : "Bag" = name
      · subst hname
        rfl
      · simp [s, withoutClasses, selects, bag, cart, till, again, hname, List.filter_cons]
  refine ⟨rfl, hunits.symm.trans hs, ?_, ?_⟩
  · rw [hassemble, assemble_eq, hs]
    rfl
  · obtain ⟨hfilled, -⟩ := classes_left_out s fun _ => .text "mock"
    rw [(hfilled rfl).2.1, assemble_eq, hs]
    rfl

end Settings

end Understudy
