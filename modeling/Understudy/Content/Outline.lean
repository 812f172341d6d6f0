import Understudy.Content.Fragments

/-!
# Outlines

An outline describes a content before anything is left out: a text, or parts
with an optional separator and footer. `build` makes the content by pushing the
parts; `referenceText` says what the text has to be, from the outline alone.
-/

set_option autoImplicit false

namespace Understudy

inductive Outline where
  | leaf (text : String)
  | group (parts : List Outline) (separator footer : Option String)
  deriving Repr

namespace Outline

mutual

def build : Outline → Content
  | .leaf text => .leaf text
  | .group parts separator footer =>
    { Group.ofList (buildAll parts) with separator, footer }.toContent

def buildAll : List Outline → List Content
  | [] => []
  | part :: rest => part.build :: buildAll rest

end

mutual

/-- The parts' texts with the empty ones removed, joined by the separator and
followed by the footer. -/
def referenceText : Outline → String
  | .leaf text => text
  | .group parts separator footer =>
    (separator.getD "").intercalate ((referenceTexts parts).filter (· ≠ "")) ++ footer.getD ""

def referenceTexts : List Outline → List String
  | [] => []
  | part :: rest => part.referenceText :: referenceTexts rest

end

end Outline

end Understudy
