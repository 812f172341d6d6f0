import Understudy.Files.Cause

/-!
# File system

A state of the file system maps locations to entries: directories and files with
their permission bits, symbolic links, and devices. A location lists the names from
an entry outward, so that its tail is the directory that holds it; the root is
always a directory. `here` is the working directory, and `tags` are what the random
names of temporary files will be told apart by. Whoever asks owns all entries, so it
is the owner's bits that grant access. Placing or removing an entry changes what is
found at its location and nowhere else.
-/

set_option autoImplicit false

namespace Understudy

abbrev Location := List String

/-- A device keeps no bytes. -/
inductive Device where
  /-- It takes every byte, and is read as empty. -/
  | null
  /-- It takes none, and reading it comes to no end. -/
  | full
  deriving DecidableEq, Repr

inductive Entry where
  | directory (mode : Nat)
  | file (bytes : List UInt8) (mode : Nat)
  | link (target : String)
  | device (kind : Device)
  deriving DecidableEq, Repr

inductive Access where
  | read
  | write
  | search
  deriving DecidableEq, Repr

def Access.bit : Access → Nat
  | read => 8
  | write => 7
  | search => 6

namespace Entry

def isDirectory : Entry → Bool
  | directory _ => true
  | _ => false

/-- A link has no permission bits of its own. -/
def mode? : Entry → Option Nat
  | directory mode => some mode
  | file _ mode => some mode
  | link _ => none
  | device _ => some 0o666

/-- An entry without permission bits grants everything. -/
def grants (access : Access) (entry : Entry) : Bool :=
  entry.mode?.all fun mode => mode.testBit access.bit

def withMode (mode : Nat) : Entry → Entry
  | directory _ => directory mode
  | file bytes _ => file bytes mode
  | entry => entry

end Entry

structure Tag where
  text : String
  length_eq : text.length = 6
  alphanumeric : text.toList.all Char.isAlphanum = true

instance : Inhabited Tag := ⟨⟨"aaaaaa", by decide, by decide⟩⟩

structure FileSystem where
  entries : List (Location × Entry)
  here : Location := []
  tags : Nat → Tag := default

namespace FileSystem

def newDirectoryMode : Nat := 0o755

def newFileMode : Nat := 0o644

def lookup (fs : FileSystem) (loc : Location) : Option Entry :=
  if loc = [] then some (.directory newDirectoryMode)
  else (fs.entries.find? fun e => e.1 == loc).map (·.2)

def grants (fs : FileSystem) (access : Access) (loc : Location) : Bool :=
  (fs.lookup loc).all (·.grants access)

def place (fs : FileSystem) (loc : Location) (entry : Entry) : FileSystem :=
  { fs with entries := (loc, entry) :: fs.entries.filter fun e => e.1 != loc }

def remove (fs : FileSystem) (loc : Location) : FileSystem :=
  { fs with entries := fs.entries.filter fun e => e.1 != loc }

theorem find?_filter_ne {entries : List (Location × Entry)} {loc other : Location}
    (h : other ≠ loc) :
    (entries.filter fun e => e.1 != loc).find? (fun e => e.1 == other) =
      entries.find? fun e => e.1 == other := by
  rw [List.find?_filter]
  congr 1
  funext e
  by_cases he : e.1 = other
  · simp [he, h]
  · simp [he]

theorem lookup_place_self (fs : FileSystem) {loc : Location} (entry : Entry) (h : loc ≠ []) :
    (fs.place loc entry).lookup loc = some entry := by
  simp [lookup, place, h]

theorem lookup_place_of_ne (fs : FileSystem) {loc other : Location} (entry : Entry)
    (h : other ≠ loc) : (fs.place loc entry).lookup other = fs.lookup other := by
  have h' : loc ≠ other := fun e => h e.symm
  by_cases hr : other = []
  · simp [lookup, hr]
  · simp only [lookup, place, hr, if_false]
    rw [List.find?_cons_of_neg (by simpa using h'), find?_filter_ne h]

theorem lookup_remove_self (fs : FileSystem) {loc : Location} (h : loc ≠ []) :
    (fs.remove loc).lookup loc = none := by
  simp [lookup, remove, h]

theorem lookup_remove_of_ne (fs : FileSystem) {loc other : Location} (h : other ≠ loc) :
    (fs.remove loc).lookup other = fs.lookup other := by
  simp only [lookup, remove, find?_filter_ne h]

def herePath (fs : FileSystem) : String := "/" ++ "/".intercalate fs.here.reverse

end FileSystem

end Understudy
