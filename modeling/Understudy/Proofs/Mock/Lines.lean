import Understudy.Mock.Template
import Understudy.Proofs.Text.Rows

/-!
# The lines of a mock

Three lines come before the members of a mock and six after them. Neither a name
nor a runtime of one line adds to these. A member is written as it stands, after
the mark of a comment, so that only its first line is marked.
-/

set_option autoImplicit false

namespace Understudy.Mock

theorem newline_not_mem_name {name : String} (h : validName name = true) : '\n' ∉ name.toList := by
  intro hm
  have hall := (Bool.and_eq_true _ _ ▸ h : _ ∧ _).2
  have hc : isNameChar '\n' = true := List.all_eq_true.1 hall '\n' hm
  exact absurd hc (by decide)

namespace Descriptor

variable {runtime : String} {d : Descriptor}

def opening (runtime : String) (d : Descriptor) : List String :=
  ["// MARK: - Mocked " ++ d.name,
    "",
    "public final class " ++ d.name ++ "Mock: " ++ d.supertypes runtime ++ " \x7b"]

def closing (d : Descriptor) : List String :=
  ["\x7d",
    "",
    "/// Returns a mock of \x60" ++ d.name ++ "\x60.",
    "public func mock(_ type: " ++ d.name ++ "." ++ d.metatype ++ ") -> " ++ d.name ++ "Mock \x7b",
    "  return " ++ d.name ++ "Mock()",
    "\x7d"]

/-- The lines of a member: its own, with the mark of a comment before the first. -/
def marked (member : String) : List String :=
  (Text.rows (Text.trim member)).modifyHead ("  // stub: " ++ ·)

theorem mockLines_eq (runtime : String) (d : Descriptor) :
    d.mockLines runtime = d.opening runtime ++ d.members.map stub ++ d.closing := rfl

theorem newline_not_mem_opening (hname : '\n' ∉ d.name.toList) (hruntime : '\n' ∉ runtime.toList) :
    ∀ line ∈ d.opening runtime, '\n' ∉ line.toList := by
  cases hk : d.kind <;> simp [opening, supertypes, hk, hname, hruntime]

theorem newline_not_mem_closing (hname : '\n' ∉ d.name.toList) :
    ∀ line ∈ d.closing, '\n' ∉ line.toList := by
  cases hk : d.kind <;> simp [closing, metatype, hk, hname]

theorem rows_stub (member : String) : Text.rows (stub member) = marked member :=
  Text.rows_modifyHead (by decide) (Text.trim member)

theorem newline_mem_stub {member : String} :
    '\n' ∈ (stub member).toList ↔ '\n' ∈ (Text.trim member).toList := by
  simp [stub]

theorem rows_stubs (members : List String) :
    (members.map stub).flatMap Text.rows = members.flatMap marked := by
  simp only [List.flatMap_map, rows_stub]

theorem newline_not_mem_stubs {members : List String} :
    (∀ line ∈ members.map stub, '\n' ∉ line.toList) ↔
      ∀ member ∈ members, '\n' ∉ (Text.trim member).toList := by
  simp [newline_mem_stub]

theorem length_members (members : List String) : (members.flatMap marked).length =
    members.length + (members.flatMap fun member => (Text.trim member).toList).count '\n' := by
  induction members with
  | nil => rfl
  | cons member rest ih =>
    have hmarked : (marked member).length = (Text.trim member).toList.count '\n' + 1 := by
      rw [marked, List.length_modifyHead, Text.length_rows]
    rw [List.flatMap_cons, List.length_append, hmarked, ih, List.length_cons, List.flatMap_cons,
      List.count_append]
    omega

theorem rows_mock_of_name (hname : '\n' ∉ d.name.toList) :
    Text.rows ("\n".intercalate (d.mockLines runtime)) =
      (d.opening runtime).flatMap Text.rows ++ d.members.flatMap marked ++ d.closing := by
  have hne : d.mockLines runtime ≠ [] := by simp [mockLines]
  have hclosing := Text.flatMap_rows_of_not_mem (newline_not_mem_closing hname)
  rw [Text.rows_intercalate hne, mockLines_eq, List.flatMap_append, List.flatMap_append,
    rows_stubs, hclosing]

theorem rows_mock (hname : '\n' ∉ d.name.toList) (hruntime : '\n' ∉ runtime.toList) :
    Text.rows ("\n".intercalate (d.mockLines runtime)) =
      d.opening runtime ++ d.members.flatMap marked ++ d.closing := by
  have hopening := Text.flatMap_rows_of_not_mem (newline_not_mem_opening hname hruntime)
  rw [rows_mock_of_name hname, hopening]

/-- The lines of the mock of a type with a valid name. Between the line that opens the class
and the one that closes it stand the lines of the members in turn. These are as many as the
members when no member has a line feed within, and then each is marked as a comment. -/
theorem mock_lines (runtime : String) (d : Descriptor) (hname : validName d.name = true)
    (hruntime : '\n' ∉ runtime.toList) :
    ∃ text, d.mock runtime = .ok text ∧
      Text.rows text = d.opening runtime ++ d.members.flatMap marked ++ d.closing ∧
      (Text.rows text).length = 9 + d.members.length +
        (d.members.flatMap fun member => (Text.trim member).toList).count '\n' ∧
      ((Text.rows text).length = 9 + d.members.length ↔
        ∀ member ∈ d.members, '\n' ∉ (Text.trim member).toList) ∧
      ((∀ member ∈ d.members, '\n' ∉ (Text.trim member).toList) →
        Text.rows text = d.opening runtime ++
          (d.members.map fun member => "  // stub: " ++ Text.trim member) ++ d.closing) := by
  have hrows := rows_mock (newline_not_mem_name hname) hruntime
  have hlength : (Text.rows ("\n".intercalate (d.mockLines runtime))).length =
      9 + (d.members.flatMap marked).length := by
    rw [hrows, List.length_append, List.length_append]
    simp only [opening, closing, List.length_cons, List.length_nil]
    omega
  refine ⟨_, if_pos hname, hrows, ?_, ?_, ?_⟩
  · rw [hlength, length_members, Nat.add_assoc]
  · rw [hlength, Nat.add_left_cancel_iff, ← newline_not_mem_stubs, ← rows_stubs,
      ← Text.length_flatMap_rows_eq_iff, List.length_map]
  · intro hone
    rw [hrows, ← rows_stubs, Text.flatMap_rows_of_not_mem (newline_not_mem_stubs.2 hone)]
    rfl

/-- A member of one line and one of two. -/
theorem second_line_unmarked :
    let d : Descriptor := ⟨"Cart", .protocolType, [" func add()\n", "func sum(\n) -> Int"]⟩
    validName d.name = true ∧ '\n' ∉ "RT".toList ∧
      (d.mock "RT").map Text.rows = .ok (d.opening "RT" ++
        ["  // stub: func add()", "  // stub: func sum(", ") -> Int"] ++ d.closing) := by
  intro d
  have hname : validName d.name = true := by decide +kernel
  have hruntime : '\n' ∉ "RT".toList := by decide
  have hmembers : d.members.flatMap marked =
      ["  // stub: func add()", "  // stub: func sum(", ") -> Int"] := by decide +kernel
  obtain ⟨text, hmock, hrows, -⟩ := mock_lines "RT" d hname hruntime
  refine ⟨hname, hruntime, ?_⟩
  rw [hmock, Except.map, hrows, hmembers]

/-- A brace on a line of its own in a member closes the class. -/
theorem member_closes_class :
    let d : Descriptor := ⟨"Cart", .protocolType, ["func a()\n\x7d"]⟩
    validName d.name = true ∧ '\n' ∉ "RT".toList ∧
      ∃ text, d.mock "RT" = .ok text ∧
        Text.rows text = d.opening "RT" ++ ["  // stub: func a()", "\x7d"] ++ d.closing ∧
        (Text.rows text).length ≠ 9 + d.members.length := by
  intro d
  have hname : validName d.name = true := by decide +kernel
  have hruntime : '\n' ∉ "RT".toList := by decide
  have hmembers : d.members.flatMap marked = ["  // stub: func a()", "\x7d"] := by decide +kernel
  have hrows := rows_mock (newline_not_mem_name hname) hruntime
  rw [hmembers] at hrows
  refine ⟨hname, hruntime, _, if_pos hname, hrows, ?_⟩
  rw [hrows]
  decide

end Descriptor

end Understudy.Mock
