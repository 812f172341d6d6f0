import Mathlib.Data.List.DropRight
import Understudy.Proofs.Mock.Lines
import Understudy.Proofs.Settings.Validity
import Understudy.Proofs.Text.Trimming

/-!
# Reading a mock

A mock shows the name and the kind of its type and the members without the blank characters
around them. The name stands in the first line, the kind in the third from the end, and the
members between as many lines before them as the runtime makes of the opening and the six
closing lines. So a mock is read back (`read_mock`), whatever the members hold short of a
line feed, and types that show the same are the ones with the same mock
(`mocks_equal_iff`).
-/

set_option autoImplicit false

namespace Understudy.Mock

namespace Descriptor

variable {runtime text text' : String} {d d' : Descriptor}

def shown (d : Descriptor) : Descriptor := { d with members := d.members.map Text.trim }

def unmarked (mark line : String) : String := String.ofList (line.toList.drop mark.toList.length)

def factory (name metatype : String) : String :=
  "public func mock(_ type: " ++ name ++ "." ++ metatype ++ ") -> " ++ name ++ "Mock \x7b"

def classLine (runtime : String) (d : Descriptor) : String :=
  "public final class " ++ d.name ++ "Mock: " ++ d.supertypes runtime ++ " \x7b"

def readName (text : String) : String :=
  unmarked "// MARK: - Mocked " ((Text.rows text).headD "")

def readKind (text : String) : Kind :=
  if (Text.rows text).reverse[2]? = some (factory (readName text) "Protocol") then .protocolType
  else .classType

def readMembers (runtime text : String) : List String :=
  (((Text.rows text).drop (3 + runtime.toList.count '\n')).rdrop 6).map (unmarked "  // stub: ")

/-- A mock taken apart, given its runtime. -/
def read (runtime text : String) : Descriptor :=
  { name := readName text, kind := readKind text, members := readMembers runtime text }

theorem opening_eq (runtime : String) (d : Descriptor) :
    d.opening runtime = ["// MARK: - Mocked " ++ d.name, "", d.classLine runtime] := rfl

theorem unmarked_append (mark s : String) : unmarked mark (mark ++ s) = s := by
  simp [unmarked]

theorem mock_eq_ok : d.mock runtime = .ok text ↔
    validName d.name = true ∧ text = "\n".intercalate (d.mockLines runtime) := by
  unfold mock
  by_cases h : validName d.name = true <;> simp [h, eq_comm]

theorem mock_eq_error {message : String} : d.mock runtime = .error message ↔
    validName d.name = false ∧ message = "\x60" ++ d.name ++ "\x60 is not a valid type name" := by
  unfold mock
  by_cases h : validName d.name = true <;> simp [h, eq_comm]

theorem shown_eq_iff : d.shown = d'.shown ↔ d.name = d'.name ∧ d.kind = d'.kind ∧
    d.members.map Text.trim = d'.members.map Text.trim := by
  simp [shown]

theorem mock_shown (runtime : String) (d : Descriptor) :
    d.shown.mock runtime = d.mock runtime := by
  have hstub : stub ∘ Text.trim = stub := by
    funext member
    rw [Function.comp_apply, stub, Text.trim_trim, stub]
  have hlines : d.shown.mockLines runtime = d.mockLines runtime := by
    rw [mockLines_eq, mockLines_eq, shown, List.map_map, hstub]
    rfl
  rw [mock, mock, hlines]
  rfl

theorem head_rows (hname : '\n' ∉ d.name.toList) :
    (Text.rows ("\n".intercalate (d.mockLines runtime))).headD "" =
      "// MARK: - Mocked " ++ d.name := by
  have hmark : '\n' ∉ ("// MARK: - Mocked " ++ d.name).toList := by simp [hname]
  rw [rows_mock_of_name hname, opening, List.flatMap_cons, Text.rows_of_not_mem hmark]
  rfl

theorem readName_mock (hname : '\n' ∉ d.name.toList) :
    readName ("\n".intercalate (d.mockLines runtime)) = d.name := by
  rw [readName, head_rows hname, unmarked_append]

theorem factory_inj {name metatype other : String} :
    factory name metatype = factory name other ↔ metatype = other := by
  unfold factory
  rw [String.append_left_inj, String.append_left_inj, String.append_left_inj,
    String.append_right_inj]

theorem factory_mem_rows (hname : '\n' ∉ d.name.toList) :
    (Text.rows ("\n".intercalate (d.mockLines runtime))).reverse[2]? =
      some (factory d.name d.metatype) := by
  rw [rows_mock_of_name hname, closing, List.reverse_append]
  rfl

theorem readKind_mock (hname : '\n' ∉ d.name.toList) :
    readKind ("\n".intercalate (d.mockLines runtime)) = d.kind := by
  rw [readKind, factory_mem_rows hname, readName_mock hname]
  simp only [Option.some.injEq, factory_inj]
  cases hk : d.kind <;> simp [metatype, hk]

theorem count_classLine (hname : '\n' ∉ d.name.toList) :
    (d.classLine runtime).toList.count '\n' = runtime.toList.count '\n' := by
  cases hk : d.kind with
  | classType =>
    have hline : d.classLine runtime =
        "public final class " ++ d.name ++ "Mock: " ++ d.name ++ ", " ++ runtime ++
          (".Mock" ++ " \x7b") := by
      unfold classLine
      simp only [supertypes, hk, String.append_assoc]
    rw [hline]
    exact Text.count_between (by simp [hname]) (by decide) runtime
  | protocolType =>
    have hline : d.classLine runtime =
        "public final class " ++ d.name ++ "Mock: " ++ runtime ++
          (".Mock, " ++ d.name ++ " \x7b") := by
      unfold classLine
      simp only [supertypes, hk, String.append_assoc]
    rw [hline]
    exact Text.count_between (by simp [hname]) (by simp [hname]) runtime

theorem length_opening (hname : '\n' ∉ d.name.toList) :
    ((d.opening runtime).flatMap Text.rows).length = 3 + runtime.toList.count '\n' := by
  have hmark : '\n' ∉ ("// MARK: - Mocked " ++ d.name).toList := by simp [hname]
  have hrows : (d.opening runtime).flatMap Text.rows =
      ("// MARK: - Mocked " ++ d.name) :: "" :: Text.rows (d.classLine runtime) := by
    rw [opening_eq, List.flatMap_cons, List.flatMap_cons, List.flatMap_singleton,
      Text.rows_of_not_mem hmark]
    rfl
  rw [hrows, List.length_cons, List.length_cons, Text.length_rows, count_classLine hname]
  omega

theorem readMembers_mock (hname : '\n' ∉ d.name.toList)
    (hmembers : ∀ member ∈ d.members, '\n' ∉ (Text.trim member).toList) :
    readMembers runtime ("\n".intercalate (d.mockLines runtime)) = d.members.map Text.trim := by
  have hstubs : d.members.flatMap marked = d.members.map stub := by
    rw [← rows_stubs, Text.flatMap_rows_of_not_mem (newline_not_mem_stubs.2 hmembers)]
  have hclosing : d.closing.length = 6 := rfl
  have hread : unmarked "  // stub: " ∘ stub = Text.trim := by
    funext member
    exact unmarked_append _ _
  rw [readMembers, rows_mock_of_name hname, hstubs, List.append_assoc,
    List.drop_left' (length_opening hname), ← hclosing, List.rdrop_append_length, List.map_map,
    hread]

theorem read_mock (hmock : d.mock runtime = .ok text)
    (hmembers : ∀ member ∈ d.members, '\n' ∉ (Text.trim member).toList) :
    read runtime text = d.shown := by
  obtain ⟨hvalid, rfl⟩ := mock_eq_ok.1 hmock
  have hname := newline_not_mem_name hvalid
  rw [read, readName_mock hname, readKind_mock hname, readMembers_mock hname hmembers, shown]

theorem mock_eq_of_shown (h : d.shown = d'.shown) (runtime : String) :
    d.mock runtime = d'.mock runtime := by
  rw [← mock_shown, h, mock_shown]

theorem name_eq_of_mock (h : d.mock runtime = d'.mock runtime) : d.name = d'.name := by
  cases hmock : d.mock runtime with
  | ok text =>
    obtain ⟨hvalid, htext⟩ := mock_eq_ok.1 hmock
    obtain ⟨hvalid', htext'⟩ := mock_eq_ok.1 (h ▸ hmock)
    rw [← readName_mock (newline_not_mem_name hvalid), ← htext, htext',
      readName_mock (newline_not_mem_name hvalid')]
  | error message =>
    obtain ⟨-, hmessage⟩ := mock_eq_error.1 hmock
    obtain ⟨-, hmessage'⟩ := mock_eq_error.1 (h ▸ hmock)
    have hsame := hmessage.symm.trans hmessage'
    rwa [String.append_left_inj, String.append_right_inj] at hsame

theorem nodup_mocks {s : Settings} (h : s.Valid) (runtime : String) :
    (s.types.map (·.mock runtime)).Nodup := by
  have hnames := h.distinct
  rw [List.Nodup, List.pairwise_map] at hnames ⊢
  exact hnames.imp fun hne heq => hne (name_eq_of_mock heq)

/-- Two mocks without line feeds in their members are equal exactly when their types have the
same name, the same kind and the same members but for the blank characters around them, and
each of them is read back. No two types of valid settings have the same mock. -/
theorem mocks_equal_iff (hmock : d.mock runtime = .ok text) (hmock' : d'.mock runtime = .ok text')
    (hmembers : ∀ member ∈ d.members, '\n' ∉ (Text.trim member).toList)
    (hmembers' : ∀ member ∈ d'.members, '\n' ∉ (Text.trim member).toList) :
    (text = text' ↔ d.name = d'.name ∧ d.kind = d'.kind ∧
        d.members.map Text.trim = d'.members.map Text.trim) ∧
      read runtime text = d.shown ∧ read runtime text' = d'.shown ∧
      ∀ s : Settings, s.Valid → (s.types.map (·.mock runtime)).Nodup := by
  have hread := read_mock hmock hmembers
  have hread' := read_mock hmock' hmembers'
  refine ⟨?_, hread, hread', fun s hs => nodup_mocks hs runtime⟩
  rw [← shown_eq_iff]
  constructor
  · rintro rfl
    exact hread.symm.trans hread'
  · intro h
    have hsame := mock_eq_of_shown h runtime
    rw [hmock, hmock'] at hsame
    exact Except.ok.inj hsame

/-- The runtime takes two lines, and the members read like the lines that close the class. -/
theorem kinds_told_apart :
    let runtime := "A,\nB \x7b"
    let d : Descriptor := ⟨"Cart", .protocolType, ["\x7d", "", "// stub: a"]⟩
    let padded : Descriptor := ⟨"Cart", .protocolType, [" \x7d", "\n", "// stub: a\t"]⟩
    let other : Descriptor := { d with kind := .classType }
    ∃ text, d.mock runtime = .ok text ∧ padded.mock runtime = .ok text ∧
      read runtime text = d ∧ ∃ text', other.mock runtime = .ok text' ∧ text ≠ text' := by
  intro runtime d padded other
  have hvalid : validName "Cart" = true := by decide +kernel
  have hmock : d.mock runtime = .ok ("\n".intercalate (d.mockLines runtime)) := if_pos hvalid
  have hpadded : padded.mock runtime = .ok ("\n".intercalate (padded.mockLines runtime)) :=
    if_pos hvalid
  have hother : other.mock runtime = .ok ("\n".intercalate (other.mockLines runtime)) :=
    if_pos hvalid
  have hmembers : ∀ member ∈ d.members, '\n' ∉ (Text.trim member).toList := by decide +kernel
  have hblank : ∀ member ∈ padded.members, '\n' ∉ (Text.trim member).toList := by decide +kernel
  obtain ⟨hsame, hread, -, -⟩ := mocks_equal_iff hmock hpadded hmembers hblank
  obtain ⟨hdiffer, -⟩ := mocks_equal_iff hmock hother hmembers hmembers
  have htext := hsame.2 ⟨rfl, rfl, by decide +kernel⟩
  have hshown : d.shown = d := by decide +kernel
  have hequal := hpadded.trans (congrArg Except.ok htext.symm)
  refine ⟨_, hmock, hequal, hread.trans hshown, _, hother, ?_⟩
  intro h
  cases (hdiffer.1 h).2.1

end Descriptor

end Understudy.Mock
