import Mathlib.Data.List.Basic
import Understudy.Comparison
import Understudy.Proofs.Text.Endings
import Understudy.Proofs.Text.Rows

/-!
# What a comparison reports

A report has one entry of three rows for each place at which the lines shown for the two
texts are not the same (`differences_eq`, `rows_message`). A line that one text lacks is
shown as the placeholder, so a line that reads like the placeholder and stands where the
other text has none is hidden. Without a hidden line the report names exactly the places at
which the lines differ, and it says that the endings differ exactly when the lines are the
same. With one it does not (`report_faithful_iff`).
-/

set_option autoImplicit false

namespace Understudy.Comparison

open Understudy.Text

def lineAt (lines : List String) (i : Nat) : String := lines[i]?.getD placeholder

/-- A line that reads like the placeholder stands where the other text has no line. -/
def Hidden (expected actual : List String) (i : Nat) : Prop :=
  (expected[i]? = some placeholder ∧ actual[i]? = none) ∨
    (expected[i]? = none ∧ actual[i]? = some placeholder)

/-- The places, counted from 0, at which the lines shown are not the same. -/
def places (expected actual : List String) : List Nat :=
  (List.range (max expected.length actual.length)).filter fun i =>
    lineAt expected i ≠ lineAt actual i

def differenceAt (expected actual : List String) (i : Nat) : Difference :=
  ⟨i + 1, lineAt expected i, lineAt actual i⟩

def headline (i : Nat) : String := "Line " ++ toString (i + 1) ++ ":"

def entry (expected actual : List String) (i : Nat) : List String :=
  [headline i, "  expected: " ++ quote (lineAt expected i),
    "  actual:   " ++ quote (lineAt actual i)]

def reportRows (expected actual : List String) (listed : List Nat) : List String :=
  "Content mismatch:" ::
    (if listed = [] then ["  (line endings differ)"] else listed.flatMap (entry expected actual)) ++
    [""]

def namesLine (row : String) : Bool := "Line ".toList.isPrefixOf row.toList

/-- A report on two lists of lines names the places at which they differ, in ascending order,
shows what stands there, and says that the endings differ exactly when no line does. -/
structure Faithful (expected actual : List String) (report : String) : Prop where
  named : ∃ listed : List Nat, listed.Pairwise (· < ·) ∧
    (∀ i, i ∈ listed ↔ expected[i]? ≠ actual[i]?) ∧
    (rows report).filter namesLine = listed.map headline
  shown : ∀ i, expected[i]? ≠ actual[i]? → entry expected actual i <:+: rows report
  endings : "  (line endings differ)" ∈ rows report ↔ expected = actual

section Places

variable {expected actual : List String} {i : Nat}

theorem lineAt_ne_iff : lineAt expected i ≠ lineAt actual i ↔
    expected[i]? ≠ actual[i]? ∧ ¬ Hidden expected actual i := by
  unfold lineAt Hidden
  cases expected[i]? <;> cases actual[i]? <;> simp [eq_comm]

theorem mem_places : i ∈ places expected actual ↔
    expected[i]? ≠ actual[i]? ∧ ¬ Hidden expected actual i := by
  rw [← lineAt_ne_iff, places, List.mem_filter, List.mem_range, decide_eq_true_iff,
    and_iff_right_iff_imp]
  intro h
  by_contra hi
  have he : expected[i]? = none := List.getElem?_eq_none (by omega)
  have ha : actual[i]? = none := List.getElem?_eq_none (by omega)
  exact (lineAt_ne_iff.1 h).1 (he.trans ha.symm)

theorem pairwise_places (expected actual : List String) :
    (places expected actual).Pairwise (· < ·) :=
  List.pairwise_lt_range.filter _

theorem paired_eq (expected actual : List String) : paired expected actual =
    (List.range (max expected.length actual.length)).map fun i =>
      (lineAt expected i, lineAt actual i) := by
  apply List.ext_getElem?
  intro i
  rw [paired, List.getElem?_zipWithAll, List.getElem?_map]
  by_cases hi : i < max expected.length actual.length
  · rw [List.getElem?_range hi]
    cases he : expected[i]? with
    | some e => simp [lineAt, he]
    | none =>
      cases ha : actual[i]? with
      | some a => simp [lineAt, he, ha]
      | none =>
        simp at he ha
        omega
  · have he : expected[i]? = none := List.getElem?_eq_none (by omega)
    have ha : actual[i]? = none := List.getElem?_eq_none (by omega)
    have hr : (List.range (max expected.length actual.length))[i]? = none :=
      List.getElem?_eq_none (by simpa using hi)
    simp [he, ha, hr]

theorem zipIdx_range (n : Nat) :
    (List.range n).zipIdx 1 = (List.range n).map fun i => (i, i + 1) := by
  apply List.ext_getElem?
  intro i
  rw [List.getElem?_zipIdx, List.getElem?_map]
  by_cases hi : i < n
  · simp [List.getElem?_range hi, Nat.add_comm]
  · simp [hi]

theorem differences_eq (expected actual : List String) : differences expected actual =
    (places expected actual).map (differenceAt expected actual) := by
  rw [differences, paired_eq, places, List.zipIdx_map, zipIdx_range, List.map_map,
    List.filterMap_map, ← List.filterMap_eq_map, List.filterMap_filter]
  congr 1
  funext i
  simp [differenceAt]

end Places

section Rows

variable {expected actual : List String} {i : Nat} {listed : List Nat}

theorem newline_not_mem_headline (i : Nat) : '\n' ∉ (headline i).toList := by
  have hdigits : '\n' ∉ Nat.toDigits 10 (i + 1) := newline_not_mem_digits (by decide) (by decide)
  simp [headline, hdigits]

theorem newline_not_mem_entry (expected actual : List String) (i : Nat) :
    ∀ row ∈ entry expected actual i, '\n' ∉ row.toList := by
  simp [entry, newline_not_mem_headline, newline_not_mem_quote]

theorem rows_entry (expected actual : List String) (i : Nat) (rest : String) :
    rows ((differenceAt expected actual i).message ++ rest) =
      entry expected actual i ++ rows rest := by
  have hmessage : (differenceAt expected actual i).message ++ rest =
      headline i ++ "\n" ++ ("  expected: " ++ quote (lineAt expected i) ++ "\n" ++
        ("  actual:   " ++ quote (lineAt actual i) ++ "\n" ++ rest)) := by
    apply String.toList_inj.1
    simp [Difference.message, differenceAt, headline]
  have hrows := newline_not_mem_entry expected actual i
  simp only [entry, List.forall_mem_cons] at hrows
  obtain ⟨hhead, hexpected, hactual, -⟩ := hrows
  rw [hmessage, rows_line hhead, rows_line hexpected, rows_line hactual, entry, List.cons_append,
    List.cons_append, List.cons_append, List.nil_append]

theorem rows_entries (expected actual : List String) (listed : List Nat) :
    rows (String.join ((listed.map (differenceAt expected actual)).map Difference.message)) =
      listed.flatMap (entry expected actual) ++ [""] := by
  induction listed with
  | nil => rfl
  | cons i rest ih =>
    rw [List.map_cons, List.map_cons, String.join_cons, rows_entry, ih, List.flatMap_cons,
      List.append_assoc]

theorem rows_nothing :
    rows (message []) = ["Content mismatch:", "  (line endings differ)", ""] := by
  decide +kernel

theorem message_of_ne_nil {ds : List Difference} (h : ds ≠ []) :
    message ds = "Content mismatch:" ++ "\n" ++ String.join (ds.map Difference.message) := by
  have hempty : ds.isEmpty = false := List.isEmpty_eq_false_iff.2 h
  have hsplit : "Content mismatch:\n" = "Content mismatch:" ++ "\n" := by decide
  unfold message
  rw [hempty, if_neg Bool.false_ne_true, hsplit]

theorem rows_message (expected actual : List String) :
    rows (message (differences expected actual)) =
      reportRows expected actual (places expected actual) := by
  rw [differences_eq]
  by_cases hp : places expected actual = []
  · rw [hp]
    exact rows_nothing
  · have hheading : '\n' ∉ "Content mismatch:".toList := by decide
    rw [message_of_ne_nil (by simpa using hp), rows_line hheading, rows_entries, reportRows,
      if_neg hp, List.cons_append]

theorem headline_injective : Function.Injective headline := by
  intro i j h
  have hdigits : Nat.toDigits 10 (i + 1) = Nat.toDigits 10 (j + 1) := by
    simpa [headline] using congrArg String.toList h
  have hnumber := congrArg (Nat.ofDigitChars 10 · 0) hdigits
  simpa [Nat.ofDigitChars_ten_toDigits] using hnumber

theorem filter_entry (expected actual : List String) (i : Nat) :
    (entry expected actual i).filter namesLine = [headline i] := by
  simp [entry, headline, namesLine]

theorem filter_reportRows (expected actual : List String) (listed : List Nat) :
    (reportRows expected actual listed).filter namesLine = listed.map headline := by
  have hends : [""].filter namesLine = [] := by decide
  by_cases hl : listed = []
  · rw [hl, reportRows, if_pos rfl]
    decide
  · rw [reportRows, if_neg hl, List.cons_append, List.filter_cons_of_neg (by decide),
      List.filter_append, List.filter_flatMap, hends, List.append_nil]
    simp only [filter_entry]
    exact List.flatMap_pure_eq_map headline listed

theorem endings_not_mem_entry (expected actual : List String) (i : Nat) :
    "  (line endings differ)" ∉ entry expected actual i := by
  simp [entry, headline, ← String.toList_inj]

theorem endings_mem_reportRows {expected actual : List String} {listed : List Nat} :
    "  (line endings differ)" ∈ reportRows expected actual listed ↔ listed = [] := by
  by_cases hl : listed = []
  · simp [reportRows, hl]
  · simp [reportRows, hl, endings_not_mem_entry]

theorem entry_infix_reportRows (hi : i ∈ listed) :
    entry expected actual i <:+: reportRows expected actual listed := by
  have hne : listed ≠ [] := List.ne_nil_of_mem hi
  obtain ⟨before, after, rfl⟩ := List.append_of_mem hi
  refine ⟨"Content mismatch:" :: before.flatMap (entry expected actual),
    after.flatMap (entry expected actual) ++ [""], ?_⟩
  simp only [reportRows, if_neg hne, List.flatMap_append, List.flatMap_cons, List.cons_append,
    List.append_assoc]

end Rows

section Faithfulness

variable {expected actual : List String} {report : String}

theorem places_eq_nil_iff (h : ∀ i, ¬ Hidden expected actual i) :
    places expected actual = [] ↔ expected = actual := by
  rw [List.eq_nil_iff_forall_not_mem]
  constructor
  · intro hp
    apply List.ext_getElem?
    intro i
    by_contra hi
    exact hp i (mem_places.2 ⟨hi, h i⟩)
  · rintro rfl i hi
    exact (mem_places.1 hi).1 rfl

theorem faithful_of_not_hidden (h : ∀ i, ¬ Hidden expected actual i)
    (hrows : rows report = reportRows expected actual (places expected actual)) :
    Faithful expected actual report where
  named := by
    refine ⟨places expected actual, pairwise_places expected actual, ?_, ?_⟩
    · intro i
      rw [mem_places, and_iff_left (h i)]
    · rw [hrows, filter_reportRows]
  shown i hi := by
    rw [hrows]
    exact entry_infix_reportRows (mem_places.2 ⟨hi, h i⟩)
  endings := by
    rw [hrows, endings_mem_reportRows, places_eq_nil_iff h]

/-- A report that names every place at which the lines differ has listed the hidden ones, but
its entries are those for the lines shown. -/
theorem not_hidden_of_faithful
    (hrows : rows report = reportRows expected actual (places expected actual))
    (h : Faithful expected actual report) (i : Nat) : ¬ Hidden expected actual i := by
  intro hi
  obtain ⟨listed, -, hlisted, hnames⟩ := h.named
  have hsame : listed = places expected actual := by
    rw [hrows, filter_reportRows] at hnames
    exact (List.map_injective_iff.2 headline_injective hnames).symm
  have hdiffer : expected[i]? ≠ actual[i]? := by
    rcases hi with ⟨he, ha⟩ | ⟨he, ha⟩ <;> simp [he, ha]
  exact (mem_places.1 (hsame ▸ (hlisted i).2 hdiffer)).2 hi

/-- Texts are compared without a report exactly when they are equal, and texts have the same
lines exactly when they are the same but for the endings. A report has an entry for each place
at which the lines differ and none is hidden, in ascending order, or says that the endings
differ when there is no such place. So it is faithful exactly when no line is hidden. -/
theorem report_faithful_iff (expected actual : String) :
    (compare expected actual = none ↔ expected = actual) ∧
      (lines expected = lines actual ↔ ∃ ls, Ended ls expected ∧ Ended ls actual) ∧
      ∀ ds, compare expected actual = some ds →
        (∃ listed : List Nat, listed.Pairwise (· < ·) ∧
          (∀ i, i ∈ listed ↔ (lines expected)[i]? ≠ (lines actual)[i]? ∧
            ¬ Hidden (lines expected) (lines actual) i) ∧
          rows (message ds) = reportRows (lines expected) (lines actual) listed) ∧
        (Faithful (lines expected) (lines actual) (message ds) ↔
          ∀ i, ¬ Hidden (lines expected) (lines actual) i) := by
  refine ⟨by simp [compare], lines_eq_lines_iff, ?_⟩
  intro ds hds
  have hdifferences : ds = differences (lines expected) (lines actual) := by
    unfold compare at hds
    split at hds
    · cases hds
    · exact (Option.some.inj hds).symm
  have hrows := rows_message (lines expected) (lines actual)
  rw [hdifferences]
  exact ⟨⟨places (lines expected) (lines actual), pairwise_places _ _, fun _ => mem_places, hrows⟩,
    not_hidden_of_faithful hrows, fun h => faithful_of_not_hidden h hrows⟩

end Faithfulness

/-- A line that reads like the placeholder is listed where the other text has a line. -/
theorem placeholder_line_listed :
    let expected := "<missing>\r\nb"
    let actual := "a\nb\n\n"
    ∃ ds, compare expected actual = some ds ∧ ds.map (·.number) = [1, 3] ∧
      Faithful (lines expected) (lines actual) (message ds) := by
  intro expected actual
  have hexpected : lines expected = ["<missing>", "b"] := by decide +kernel
  have hactual : lines actual = ["a", "b", ""] := by decide +kernel
  have hplaces : places (lines expected) (lines actual) = [0, 2] := by decide +kernel
  have hcompare : compare expected actual = some (differences (lines expected) (lines actual)) :=
    if_neg (by decide)
  obtain ⟨-, -, hreport⟩ := report_faithful_iff expected actual
  refine ⟨_, hcompare, ?_, (hreport _ hcompare).2.2 ?_⟩
  · rw [differences_eq, hplaces]
    rfl
  · rintro i (⟨he, ha⟩ | ⟨he, ha⟩)
    · rw [hexpected] at he
      rw [hactual] at ha
      match i with
      | 0 => cases ha
      | 1 => cases ha
      | i + 2 => cases he
    · rw [hexpected] at he
      rw [hactual] at ha
      match i with
      | 0 => cases he
      | 1 => cases he
      | 2 => exact absurd ha (by decide)
      | i + 3 => cases ha

/-- The second line of the first text is lacking in the other, and the report says that the
endings differ. -/
theorem hidden_line_unlisted :
    let expected := "a\n<missing>"
    let actual := "a"
    compare expected actual = some [] ∧
      message [] = "Content mismatch:\n  (line endings differ)\n" ∧
      lines expected ≠ lines actual ∧
      ¬ Faithful (lines expected) (lines actual) (message []) := by
  intro expected actual
  have hcompare : compare expected actual = some [] := by decide +kernel
  have hlines : lines expected ≠ lines actual := by decide +kernel
  refine ⟨hcompare, by decide +kernel, hlines, ?_⟩
  intro h
  apply hlines
  apply h.endings.1
  rw [rows_nothing]
  decide

end Understudy.Comparison
