import Understudy.Files.Resolution

/-!
# Changing the file system

The steps that writers are made of: making a directory, opening a file for
writing, appending to it, creating a file that must not exist, setting
permission bits, renaming and removing. Each either changes one entry (renaming
two) or fails and changes nothing.
-/

set_option autoImplicit false

namespace Understudy

inductive Handle where
  | file (loc : Location)
  | device (kind : Device)
  deriving DecidableEq, Repr

namespace FileSystem

abbrev Action (α : Type) := EStateM Cause FileSystem α

/-- The directory and the name at which a path ends, and the entry there. -/
def target (fs : FileSystem) (path : String) (atDirectory : Cause) :
    Except Cause (Location × String × Bool × Option Entry) := do
  match ← fs.resolve .keep path with
  | .directory _ => throw atDirectory
  | .name dir name slash => pure (dir, name, slash, ← fs.child? dir name)

/-- The location for a new entry: nothing is there yet, and the directory takes it. -/
def vacancy (fs : FileSystem) (path : String) : Except Cause Location :=
  match fs.target path .alreadyExists with
  | .error cause => .error cause
  | .ok (_, _, _, some _) => .error .alreadyExists
  | .ok (dir, name, _, none) =>
    if fs.grants .write dir then .ok (name :: dir) else .error .permissionDenied

/-- The permission bits of a new directory in another: the set-group bit is handed
down. -/
def directoryModeIn (fs : FileSystem) (dir : Location) : Nat :=
  if ((fs.lookup dir).bind Entry.mode?).any (·.testBit 10) then newDirectoryMode + 0o2000
  else newDirectoryMode

def makeDirectory (path : String) : Action Unit := fun fs =>
  match fs.vacancy path with
  | .error cause => .error cause fs
  | .ok loc => .ok () (fs.place loc (.directory (fs.directoryModeIn loc.tail)))

/-- Makes the first of the paths, and before it the others as far as they are
missing. A directory that is there already is as good as a new one. -/
def makeChain : List String → Action Unit
  | [] => pure ()
  | path :: above => fun fs =>
    match makeDirectory path fs with
    | .ok () fs => .ok () fs
    | .error .notFound fs =>
      match makeChain above fs with
      | .error cause fs => .error cause fs
      | .ok () fs => settle path (makeDirectory path fs)
    | failed => settle path failed
where
  settle (path : String) : EStateM.Result Cause FileSystem Unit → EStateM.Result Cause FileSystem Unit
    | .ok () fs => .ok () fs
    | .error cause fs => if fs.isDirectory path then .ok () fs else .error cause fs

def makeDirectories (path : String) : Action Unit := makeChain (Path.ancestors path)

/-- The permission bits of a file whose bytes change: the set-user bit is dropped,
and the set-group bit where the group may execute. -/
def modeOnceWritten (mode : Nat) : Nat :=
  let mode := if mode.testBit 11 then mode - 0o4000 else mode
  if mode.testBit 10 && mode.testBit 3 then mode - 0o2000 else mode

/-- Opens for writing: a file loses its bytes, a missing one is created. -/
def openForWriting (path : String) : Action Handle := fun fs =>
  match fs.resolve .create path with
  | .error cause => .error cause fs
  | .ok (.directory _) => .error .isADirectory fs
  | .ok (.name _ _ true) => .error .isADirectory fs
  | .ok (.name dir name false) =>
    match fs.child? dir name with
    | .error cause => .error cause fs
    | .ok none =>
      if fs.grants .write dir then
        .ok (.file (name :: dir)) (fs.place (name :: dir) (.file [] newFileMode))
      else .error .permissionDenied fs
    | .ok (some (.file bytes mode)) =>
      if (Entry.file bytes mode).grants .write then
        .ok (.file (name :: dir)) (fs.place (name :: dir) (.file [] (modeOnceWritten mode)))
      else .error .permissionDenied fs
    | .ok (some (.directory _)) => .error .isADirectory fs
    | .ok (some (.link _)) => .error .filesystemLoop fs
    | .ok (some (.device kind)) => .ok (.device kind) fs

def append (handle : Handle) (bytes : List UInt8) : Action Unit := fun fs =>
  match handle with
  | .device .null => .ok () fs
  | .device .full => .error .storageFull fs
  | .file loc =>
    match fs.lookup loc with
    | some (.file old mode) => .ok () (fs.place loc (.file (old ++ bytes) mode))
    | _ => .ok () fs

/-- Creates a file in a directory where nothing has that name. The way there is the
one from the root. -/
def createNew (directory name : String) : Action Location := fun fs =>
  match fs.vacancy (Path.join fs.herePath (Path.join directory name)) with
  | .error cause => .error cause fs
  | .ok loc => .ok loc (fs.place loc (.file [] newFileMode))

def setMode (loc : Location) (mode : Nat) (fs : FileSystem) : FileSystem :=
  match fs.lookup loc with
  | some entry => fs.place loc (entry.withMode mode)
  | none => fs

/-- Moves a file to a path, where it takes the place of anything but a directory. -/
def rename (source : Location) (path : String) : Action Unit := fun fs =>
  match fs.target path .resourceBusy with
  | .error cause => .error cause fs
  | .ok (_, _, true, _) => .error .notADirectory fs
  | .ok (_, _, false, some (.directory _)) => .error .isADirectory fs
  | .ok (dir, name, false, _) =>
    match fs.lookup source with
    | none => .error .notFound fs
    | some entry => .ok () ((fs.remove source).place (name :: dir) entry)

def makeLink (path target : String) : Action Unit := fun fs =>
  match badPath? target with
  | some cause => .error cause fs
  | none =>
    match fs.vacancy path with
    | .error cause => .error cause fs
    | .ok loc => .ok () (fs.place loc (.link target))

def changeMode (path : String) (mode : Nat) : Action Unit := fun fs =>
  match fs.resolve .follow path with
  | .error cause => .error cause fs
  | .ok (.directory loc) => .ok () (setMode loc (mode % 0o10000) fs)
  | .ok (.name dir name _) =>
    match fs.child? dir name with
    | .error cause => .error cause fs
    | .ok none => .error .notFound fs
    | .ok (some _) => .ok () (setMode (name :: dir) (mode % 0o10000) fs)

end FileSystem

end Understudy
