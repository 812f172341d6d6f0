import Understudy.Text.Split

/-!
# Paths

A path is read in two ways. By its letters it has a file name, a parent and
ancestors: pieces between slashes, where an empty piece counts for nothing and
neither does a dot after the first piece. To the file system it is a route of
names from the root or the working directory, and a slash at its end is heeded.
-/

set_option autoImplicit false

namespace Understudy.Path

/-- The pieces between the slashes: one more than there are slashes. -/
def pieces (path : String) : List String := (Text.split '/' path.toList).map String.ofList

def joinPieces (pieces : List String) : String := "/".intercalate pieces

def isRooted (path : String) : Bool := path.toList.head? == some '/'

def endsInSlash (path : String) : Bool := path.toList.getLast? == some '/'

/-- For pieces in reverse order: those suffixes whose head counts. A dot counts
when nothing stands before it. -/
def chain : List String → List (List String)
  | [] => []
  | p :: ps => if p = "" ∨ (p = "." ∧ ps ≠ []) then chain ps else (p :: ps) :: chain ps

def ancestry (path : String) : List (List String) := chain (pieces path).reverse

def ancestors (path : String) : List String :=
  (ancestry path).map fun reversed => joinPieces reversed.reverse

def parent? (path : String) : Option String :=
  match ancestry path with
  | [] => none
  | [_] => some (if isRooted path then "/" else "")
  | _ :: above :: _ => some (joinPieces above.reverse)

def fileName? (path : String) : Option String :=
  match ancestry path with
  | (name :: _) :: _ => if name = "." ∨ name = ".." then none else some name
  | _ => none

def directory (path : String) : String :=
  match parent? path with
  | none => "."
  | some above => if above = "" then "." else above

/-- A rooted path stands for itself, any other is taken from the base. -/
def join (base path : String) : String :=
  if isRooted path ∨ base = "" then path
  else if endsInSlash base then base ++ path
  else base ++ "/" ++ path

/-- A path as the file system follows it. -/
structure Route where
  rooted : Bool
  names : List String
  slash : Bool

def route (path : String) : Route where
  rooted := isRooted path
  names := (pieces path).filter (· ≠ "")
  slash := endsInSlash path

example : parent? "a/./b//c/" = some "a/./b" ∧ fileName? "a/./b//c/." = some "c" := by
  decide +kernel

end Understudy.Path
