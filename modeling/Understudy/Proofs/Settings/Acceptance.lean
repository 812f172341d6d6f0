import Understudy.Proofs.Settings.Decoding
import Understudy.Proofs.Settings.Validity

/-!
# Settings that are accepted

A plain document is accepted when its fields give settings and these are valid. Settings
that are not valid are refused for the first reason that applies.
-/

set_option autoImplicit false

namespace Understudy.Settings

variable {text : String} {table : Toml.Table} {s : Settings}

theorem parse_of_table (ht : Toml.Document.parse? text = some table) (hs : ofTable table = .ok s) :
    parse text = s.invalid?.elim (.ok s) fun reason => .error (.invalid reason) := by
  unfold parse
  rw [ht]
  dsimp only
  rw [hs]
  dsimp only
  cases s.invalid? <;> rfl

theorem ofTable_of_parse (ht : Toml.Document.parse? text = some table) (hs : parse text = .ok s) :
    ofTable table = .ok s ∧ s.invalid? = none := by
  cases h : ofTable table with
  | error m =>
    unfold parse at hs
    rw [ht] at hs
    dsimp only at hs
    rw [h] at hs
    cases hs
  | ok read =>
    rw [parse_of_table ht h] at hs
    cases hi : read.invalid? with
    | some reason =>
      rw [hi] at hs
      cases hs
    | none =>
      rw [hi] at hs
      cases hs
      exact ⟨rfl, hi⟩

theorem valid_of_parse (h : parse text = .ok s) : s.Valid := by
  cases ht : Toml.Document.parse? text with
  | none =>
    rw [parse, ht] at h
    cases h
  | some table => exact invalid?_eq_none.1 (ofTable_of_parse ht h).2

theorem load_eq_ok {path : String} {source : Except Cause String} :
    load path source = .ok s ↔ ∃ text, source = .ok text ∧ parse text = .ok s := by
  cases source <;> simp [load]

/-- A plain document is accepted exactly when its fields give valid settings, and those are
the result. Settings that are not valid are refused with the first fault. -/
theorem plain_document_accepted (ht : Toml.Document.parse? text = some table)
    (hp : Plain table) :
    (∀ s, parse text = .ok s ↔ ofFields? table = some s ∧ s.Valid) ∧
      ∀ s, ofFields? table = some s → ¬ s.Valid →
        ∃ refusal message, parse text = .error refusal ∧
          refusal.chain text = [.message message] ∧ s.FirstFault message := by
  have hfields : ∀ s, ofFields? table = some s ↔ ofTable table = .ok s := by
    intro s
    rw [← toOption_ofTable hp (Toml.keyed_of_parse? ht)]
    exact toOption_eq_some
  constructor
  · intro s
    rw [hfields]
    constructor
    · intro h
      obtain ⟨hs, hi⟩ := ofTable_of_parse ht h
      exact ⟨hs, invalid?_eq_none.1 hi⟩
    · rintro ⟨hs, hv⟩
      rw [parse_of_table ht hs, invalid?_eq_none.2 hv]
      rfl
  · intro s hs hv
    cases hi : s.invalid? with
    | none => exact absurd (invalid?_eq_none.1 hi) hv
    | some reason =>
      refine ⟨.invalid reason, reason.message, ?_, rfl, firstFault_of_invalid? hi⟩
      rw [parse_of_table ht ((hfields s).1 hs), hi]
      rfl

def storeText : String :=
  "imports = ['import B', 'import A', 'import B']\njobs = 2\nmodule = 'Shop'\n\n" ++
  "[[types]]\nname = 'Store'\nkind = 'class'\nsince = 4\n"

theorem store_text_accepted :
    ∃ table, Toml.Document.parse? storeText = some table ∧ Plain table ∧
      ∃ s, parse storeText = .ok s ∧ s.imports.toList = ["import A", "import B"] ∧
        s.runtime = "MockgenRuntime" ∧ s.jobs = some 2 ∧
        s.types = [{ name := "Store", kind := .classType }] := by
  have hread : ∃ table ∈ Toml.Document.parse? storeText, Plain table ∧
      ∃ s ∈ ofFields? table, s.Valid ∧ s.imports.toList = ["import A", "import B"] ∧
        s.runtime = "MockgenRuntime" ∧ s.jobs = some 2 ∧
        s.types = [{ name := "Store", kind := .classType }] := by
    decide +kernel
  obtain ⟨table, ht, hp, s, hs, hv, hrest⟩ := hread
  exact ⟨table, ht, hp, s, ((plain_document_accepted ht hp).1 s).2 ⟨hs, hv⟩, hrest⟩

def wideText : String :=
  "module = 'Shop'\n\n[[types]]\nname = 'Store'\nkind = 'class'\nsince = 1e400\n"

theorem wide_float_refused :
    ∃ table, Toml.Document.parse? wideText = some table ∧ Spelled table ∧
      (∃ s, ofFields? table = some s ∧ s.Valid) ∧ ∀ s, parse wideText ≠ .ok s := by
  have hread : ∃ table ∈ Toml.Document.parse? wideText, Spelled table ∧
      ∃ s ∈ ofFields? table, s.Valid := by
    decide +kernel
  have hrefused : (parse wideText).toOption.isNone = true := by decide +kernel
  obtain ⟨table, ht, hp, hs⟩ := hread
  refine ⟨table, ht, hp, hs, fun s h => ?_⟩
  rw [h] at hrefused
  cases hrefused

end Understudy.Settings
