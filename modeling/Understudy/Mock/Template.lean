import Understudy.Mock.Descriptor
import Understudy.Rendering.Outcome
import Understudy.Text.Alphanumeric
import Understudy.Text.Blank

/-!
# The mock of a type

A mock is a final class that conforms to the runtime, with a comment line for
each member, and a function that makes one. Only a name of letters, numbers and
underscores names a type.
-/

set_option autoImplicit false

namespace Understudy.Mock

def isNameChar (c : Char) : Bool := Text.isAlphanumeric c || c == '_'

def validName (name : String) : Bool := name != "" && name.toList.all isNameChar

namespace Descriptor

def supertypes (runtime : String) (d : Descriptor) : String :=
  match d.kind with
  | .protocolType => runtime ++ ".Mock, " ++ d.name
  | .classType => d.name ++ ", " ++ runtime ++ ".Mock"

def metatype (d : Descriptor) : String :=
  match d.kind with
  | .protocolType => "Protocol"
  | .classType => "Type"

def stub (member : String) : String := "  // stub: " ++ Text.trim member

def mockLines (runtime : String) (d : Descriptor) : List String :=
  ["// MARK: - Mocked " ++ d.name,
    "",
    "public final class " ++ d.name ++ "Mock: " ++ d.supertypes runtime ++ " \x7b"] ++
  d.members.map stub ++
  ["\x7d",
    "",
    "/// Returns a mock of \x60" ++ d.name ++ "\x60.",
    "public func mock(_ type: " ++ d.name ++ "." ++ d.metatype ++ ") -> " ++ d.name ++ "Mock \x7b",
    "  return " ++ d.name ++ "Mock()",
    "\x7d"]

def mock (runtime : String) (d : Descriptor) : Except String String :=
  if validName d.name then .ok ("\n".intercalate (d.mockLines runtime))
  else .error ("\x60" ++ d.name ++ "\x60 is not a valid type name")

end Descriptor

abbrev Renderer := Descriptor → Outcome

def template (runtime : String) : Renderer := fun d =>
  match d.mock runtime with
  | .ok text => .text text
  | .error message => .refused message

end Understudy.Mock
