import Understudy.Content.Fragments
import Understudy.Files.Change
import Understudy.Output.Buffer
import Understudy.Output.Rules

/-!
# Writing a content to a file

The directories above the file are made first. A direct write then empties the
file and fills it through a buffer, and keeps what it wrote when it fails. An
atomic write fills a temporary file in the same directory, gives it the mode of
the file it will replace, and renames it; when it fails at any point the
temporary file is removed.
-/

set_option autoImplicit false

namespace Understudy

namespace FileSystem

abbrev Write (α : Type) := EStateM Failure FileSystem α

def onFailure {α : Type} (step : Write α) (undo : FileSystem → FileSystem) : Write α := fun fs =>
  match step fs with
  | .ok a fs => .ok a fs
  | .error failure fs => .error failure (undo fs)

/-- What is pending reaches the file also after a failure, if it can. -/
def fill (handle : Handle) (encoding : Encoding) (c : Content) : Write Unit := fun fs =>
  let write : Writer FileSystem := append handle
  match c.emit encoding (Buffered.writeAll write) ⟨#[], fs⟩ with
  | .ok () b =>
    match Buffered.flush write b with
    | .ok () b => .ok () b.below
    | .error cause b => .error (.notWritten cause) b.below
  | .error failure b =>
    match Buffered.flush write b with
    | .ok () b => .error failure b.below
    | .error _ b => .error failure b.below

def writeDirect (path : String) (encoding : Encoding) (c : Content) : Write Unit := do
  let handle ← (openForWriting path).adaptExcept (.noSink path)
  fill handle encoding c

def maxTries : Nat := 65536

/-- What the temporary name of a path starts with. -/
def temporaryStem (path : String) : String :=
  match Path.fileName? path with
  | some name => "." ++ name ++ "."
  | none => ".mockgen."

def temporaryName (stem : String) (tag : Tag) : String := stem ++ tag.text ++ ".tmp"

def orIfTaken {α : Type} (step next : Action α) : Action α := fun fs =>
  match step fs with
  | .error .alreadyExists fs => next fs
  | answered => answered

def createTemporary (directory stem : String) : (tries n : Nat) → Action Location
  | 0, _ => throw .alreadyExists
  | tries + 1, n => fun fs =>
    orIfTaken (createNew directory (temporaryName stem (fs.tags n)))
      (createTemporary directory stem tries (n + 1)) fs

def copyMode (path : String) (loc : Location) (fs : FileSystem) : FileSystem :=
  match fs.status path with
  | .ok (.file _ mode) => setMode loc mode fs
  | _ => fs

def writeAtomic (path : String) (encoding : Encoding) (c : Content) : Write Unit := do
  let directory := Path.directory path
  let loc ← (createTemporary directory (temporaryStem path) maxTries 0).adaptExcept
    (.noSink directory)
  onFailure
    (do
      fill (.file loc) encoding c
      modify (copyMode path loc)
      (rename loc path).adaptExcept (.notReplaced path))
    (·.remove loc)

def write (path : String) (c : Content) (rules : Rules) : Write Unit := do
  let directory := Path.directory path
  (makeDirectories directory).adaptExcept (.noSink directory)
  match rules.mode with
  | .direct => writeDirect path rules.encoding c
  | .atomic => writeAtomic path rules.encoding c

end FileSystem

structure GeneratedFile where
  path : String
  content : Content
  rules : Rules := {}

namespace GeneratedFile

def write (f : GeneratedFile) : FileSystem.Write Unit := FileSystem.write f.path f.content f.rules

end GeneratedFile

end Understudy
