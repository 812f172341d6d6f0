import Understudy.Text.Choice

/-!
# Types to be mocked

A descriptor names a class or a protocol and lists its members as they are
declared.
-/

set_option autoImplicit false

namespace Understudy.Mock

inductive Kind where
  | classType
  | protocolType
  deriving DecidableEq, Repr

namespace Kind

def name : Kind → String
  | classType => "class"
  | protocolType => "protocol"

def choice : Text.Choice Kind := ⟨[("class", classType), ("protocol", protocolType)]⟩

end Kind

structure Descriptor where
  name : String
  kind : Kind
  members : List String := []
  deriving DecidableEq, Repr

end Understudy.Mock
