/-!
# Choosing by name

A choice offers a few values, each under a name. A name that is not on offer is
answered with the names that are, in their order.
-/

set_option autoImplicit false

namespace Understudy.Text

def alternatives : List String → String
  | [a] => "\x60" ++ a ++ "\x60"
  | [a, b] => "\x60" ++ a ++ "\x60 or \x60" ++ b ++ "\x60"
  | names => "one of " ++ ", ".intercalate (names.map fun n => "\x60" ++ n ++ "\x60")

structure Choice (α : Type) where
  options : List (String × α)

namespace Choice

variable {α : Type}

def find? (choice : Choice α) (name : String) : Option α :=
  (choice.options.find? fun o => o.1 == name).map (·.2)

def names (choice : Choice α) : List String := choice.options.map (·.1)

end Choice

end Understudy.Text
