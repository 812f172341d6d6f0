import Understudy.Files.Cause
import Understudy.Files.FileSystem
import Understudy.Files.Path
import Understudy.Text.Bytes

/-!
# Finding the place of a path

A route is followed name by name, through directories that grant it. Every name
but the last has to lead to a directory, through links if need be; at most forty
links are followed. What the last name stands for depends on who asks, so the
place found is a directory and a name in it, unless the route ends at a dot, two
dots or the root.
-/

set_option autoImplicit false

namespace Understudy

/-- How the end of a route is taken. -/
inductive Ending where
  /-- A link is followed, and a slash asks for a directory. -/
  | follow
  /-- A link is followed unless a slash comes after it. -/
  | create
  /-- A link is not followed. -/
  | keep
  deriving DecidableEq, Repr

inductive Place where
  | directory (loc : Location)
  | name (dir : Location) (name : String) (slash : Bool)
  deriving DecidableEq, Repr

namespace Path.Route

/-- The names to follow, with an empty one for a slash that asks for a directory. -/
def steps (route : Route) (ending : Ending) : List String :=
  if route.slash && ending == .follow then route.names ++ [""] else route.names

def openSlash (route : Route) (ending : Ending) : Bool := route.slash && ending != .follow

def start (route : Route) (dir : Location) : Location := if route.rooted then [] else dir

end Path.Route

namespace FileSystem

def maxName : Nat := 255

def maxPath : Nat := 4096

def maxLinks : Nat := 40

def badPath? (path : String) : Option Cause :=
  if path.toList.contains '\x00' then some .invalidInput
  else if path = "" then some .notFound
  else if maxPath ≤ path.utf8ByteSize then some .invalidFilename
  else none

def child? (fs : FileSystem) (dir : Location) (name : String) : Except Cause (Option Entry) :=
  if maxName < name.utf8ByteSize then .error .invalidFilename else .ok (fs.lookup (name :: dir))

/-- Goes from a directory along names. `follow` goes on from where a link leads:
from a directory, with a slash at the end or not, along the names of the link
and those that were left. -/
def findVia (fs : FileSystem) (ending : Ending)
    (follow : Location → Bool → List String → Except Cause Place) (dir : Location) (slash : Bool) :
    List String → Except Cause Place
  | [] => .ok (.directory dir)
  | "" :: rest => findVia fs ending follow dir slash rest
  | name :: rest =>
    if !fs.grants .search dir then .error .permissionDenied
    else if name = "." then findVia fs ending follow dir slash rest
    else if name = ".." then findVia fs ending follow dir.tail slash rest
    else if rest = [] then
      match ending != .keep && !slash, fs.lookup (name :: dir) with
      | true, some (.link target) =>
        let route := Path.route target
        follow (route.start dir) (route.openSlash ending) (route.steps ending)
      | _, _ => .ok (.name dir name slash)
    else
      match fs.child? dir name with
      | .error cause => .error cause
      | .ok none => .error .notFound
      | .ok (some (.directory _)) => findVia fs ending follow (name :: dir) slash rest
      | .ok (some (.link target)) =>
        let route := Path.route target
        follow (route.start dir) slash (route.names ++ rest)
      | .ok (some _) => .error .notADirectory

def find (fs : FileSystem) (ending : Ending) :
    (links : Nat) → Location → Bool → List String → Except Cause Place
  | 0 => findVia fs ending fun _ _ _ => .error .filesystemLoop
  | links + 1 => findVia fs ending (find fs ending links)

def resolve (fs : FileSystem) (ending : Ending) (path : String) : Except Cause Place :=
  match badPath? path with
  | some cause => .error cause
  | none =>
    let route := Path.route path
    fs.find ending maxLinks (route.start fs.here) (route.openSlash ending) (route.steps ending)

def status (fs : FileSystem) (path : String) : Except Cause Entry := do
  let found ← match ← fs.resolve .follow path with
    | .directory loc => pure (fs.lookup loc)
    | .name dir name _ => fs.child? dir name
  match found with
  | none => throw .notFound
  | some entry => pure entry

def isDirectory (fs : FileSystem) (path : String) : Bool :=
  match fs.status path with
  | .ok entry => entry.isDirectory
  | .error _ => false

def mode? (fs : FileSystem) (path : String) : Option Nat :=
  match fs.status path with
  | .ok entry => entry.mode?
  | .error _ => none

def read (fs : FileSystem) (path : String) : Except Cause (List UInt8) := do
  let entry ← fs.status path
  if !entry.grants .read then throw .permissionDenied
  match entry with
  | .file bytes _ => pure bytes
  | .device .null => pure []
  | .directory _ => throw .isADirectory
  | _ => throw .invalidData

def readText (fs : FileSystem) (path : String) : Except Cause String := do
  match Text.ofBytes? (← fs.read path) with
  | none => throw .invalidData
  | some text => pure text

end FileSystem

end Understudy
