import Mathlib.Data.List.Nodup
import Understudy.Generation
import Understudy.Proofs.Rendering.Results
import Understudy.Proofs.Settings.Validity
import Understudy.Proofs.Text.Order

/-!
# The types that are rendered

The selected types in the order of their names, those of one name as they are
declared. Valid settings declare no name twice, and then the order of the
declarations leaves no trace.
-/

set_option autoImplicit false

namespace Understudy.Settings

theorem nodup_of_valid {s : Settings} (h : s.invalid? = none) : (s.types.map (·.name)).Nodup :=
  (invalid?_eq_none.1 h).distinct

variable {s : Settings}

theorem units_eq (s : Settings) : s.units = Text.sortedBy (·.name) (s.types.filter s.selects) := rfl

theorem perm_units (s : Settings) : s.units.Perm (s.types.filter s.selects) :=
  Text.perm_sortedBy _ _

theorem mem_units {d : Mock.Descriptor} : d ∈ s.units ↔ d ∈ s.types ∧ s.selects d = true :=
  (perm_units s).mem_iff.trans List.mem_filter

theorem pairwise_units (s : Settings) :
    s.units.Pairwise fun d e => Text.before e.name d.name = false :=
  Text.pairwise_sortedBy _ _

theorem filter_units (s : Settings) (name : String) :
    s.units.filter (fun d => d.name == name) =
      (s.types.filter s.selects).filter fun d => d.name == name :=
  Text.filter_sortedBy _ _ name

theorem ascending_units (h : (s.types.map (·.name)).Nodup) :
    s.units.Pairwise fun d e => Text.before d.name e.name = true := by
  have hnames : (s.units.map (·.name)).Nodup := by
    rw [((perm_units s).map _).nodup_iff]
    exact h.sublist (List.filter_sublist.map _)
  exact (pairwise_units s).imp₂ (fun d e hb hne => Text.before_total hb (Ne.symm hne))
    (List.pairwise_map.1 hnames)

theorem units_eq_of_perm {t : Settings} (h : (s.types.map (·.name)).Nodup)
    (hp : t.types.Perm s.types) (ho : t.onlyProtocols = s.onlyProtocols) : t.units = s.units := by
  have hselects : t.selects = s.selects := by
    funext d
    rw [selects, selects, ho]
  rw [units_eq, units_eq, hselects]
  apply Eq.symm
  apply Text.sortedBy_eq_of_perm _ (hp.symm.filter s.selects)
  intro d hd e he hname
  have hd' := (List.mem_filter.1 hd).1
  have he' := (List.mem_filter.1 he).1
  exact List.inj_on_of_nodup_map h hd' he' hname

def assembly (s : Settings) : Assembly where
  header := s.header.toContent
  support := Mock.Support.leaves s.runtime
  guarded := s.header.guard?.isSome

def documentOf (s : Settings) (results : List Rendered) : Document where
  content := s.assembly.toContent results
  rendered := results.length
  skipped := s.types.length - s.units.length

theorem assemble_eq (s : Settings) (render : Mock.Renderer) :
    s.assemble render = (Outcome.collect (s.units.map render)).map s.documentOf := by
  rw [assemble, execute, Execution.result_ofUnits]
  cases Outcome.collect (s.units.map render) <;> rfl

theorem assemble_eq_ok {render : Mock.Renderer} {d : Document} : s.assemble render = .ok d ↔
    ∃ results, Outcome.collect (s.units.map render) = .ok results ∧ d = s.documentOf results := by
  rw [assemble_eq]
  cases Outcome.collect (s.units.map render) <;> simp [Except.map, eq_comm]

theorem assemble_eq_error {render : Mock.Renderer} {failure : Failure} :
    s.assemble render = .error failure ↔
      Outcome.collect (s.units.map render) = .error failure := by
  rw [assemble_eq]
  cases Outcome.collect (s.units.map render) <;> simp [Except.map]

theorem preview_of_collect {render : Mock.Renderer} {results : List Rendered}
    (h : Outcome.collect (s.units.map render) = .ok results) :
    s.preview render = .ok (s.documentOf results).content.text := by
  rw [preview, assemble_eq, h]
  rfl

end Understudy.Settings
