import Understudy.Text.Blank
import Understudy.Text.Sorted
import Understudy.Content.Fragments

/-!
# Import lines

The import lines of a document: each line is trimmed, a blank one is left out,
and what stays is kept as a sorted set.
-/

set_option autoImplicit false

namespace Understudy

structure Imports where
  lines : Text.Sorted

namespace Imports

def empty : Imports := ⟨.empty⟩

def add (i : Imports) (line : String) : Imports :=
  let trimmed := Text.trim line
  if trimmed = "" then i else ⟨i.lines.insert trimmed⟩

def addAll (i : Imports) (lines : List String) : Imports := lines.foldl add i

def ofList (lines : List String) : Imports := empty.addAll lines

def toList (i : Imports) : List String := i.lines.toList

def size (i : Imports) : Nat := i.lines.size

def isEmpty (i : Imports) : Bool := i.lines.isEmpty

def toContent (i : Imports) : Content :=
  ((Group.ofList (i.toList.map .leaf)).separated "\n").toContent

end Imports

end Understudy
