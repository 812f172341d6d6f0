import Understudy.Files.Writing
import Understudy.Output.Encodable

/-!
# Replacing a file, step by step

An atomic write taken apart. Directories are made, a temporary file is created,
bytes are appended to it a few at a time, it is given its mode, brought to the
disk and renamed. Every write can be cut off after any step, and one with a
temporary file can give up and remove it. A race is a moment of several writes
to one path, whose steps come in any order.
-/

set_option autoImplicit false

namespace Understudy

namespace FileSystem

/-- Where the entry that a path names is, or will be. -/
def destination? (fs : FileSystem) (path : String) : Option Location :=
  match fs.target path .notFound with
  | .ok (dir, name, _, _) => some (name :: dir)
  | .error _ => none

end FileSystem

namespace Replacement

inductive Stage where
  | opening
  | filling (temporary : Location) (written : List UInt8)
  | filled (temporary : Location)
  | durable (temporary : Location)
  | ended
  deriving DecidableEq, Repr

def Stage.temporary? : Stage → Option Location
  | opening => none
  | filling temporary _ => some temporary
  | filled temporary => some temporary
  | durable temporary => some temporary
  | ended => none

structure Call where
  content : Content
  encoding : Encoding
  stage : Stage := .opening

namespace Call

def reach (c : Call) : List UInt8 := c.encoding.reach c.content.fragments

def refusal? (c : Call) : Option Nat := c.encoding.refusal? c.content.fragments

/-- A file with the whole of the content. -/
def Complete (c : Call) (entry : Entry) : Prop :=
  c.refusal? = none ∧ ∃ mode, entry = .file (Text.bytes c.content.text) mode

end Call

open FileSystem

/-- What one call can do next to a file system. -/
inductive Step (path : String) (c : Call) : Stage × FileSystem → Stage × FileSystem → Prop
  | makeDirectory {above : String} {fs fs' : FileSystem} :
      above ∈ Path.ancestors (Path.directory path) →
      makeDirectory above fs = .ok () fs' →
      Step path c (.opening, fs) (.opening, fs')
  | create {tag : String} {loc : Location} {fs fs' : FileSystem} :
      '/' ∉ tag.toList →
      createNew (Path.directory path) (temporaryStem path ++ tag ++ ".tmp") fs = .ok loc fs' →
      Step path c (.opening, fs) (.filling loc [], fs')
  | append {loc : Location} {written chunk : List UInt8} {fs fs' : FileSystem} :
      written ++ chunk <+: c.reach →
      append (.file loc) chunk fs = .ok () fs' →
      Step path c (.filling loc written, fs) (.filling loc (written ++ chunk), fs')
  | copyMode {loc : Location} {fs : FileSystem} :
      c.refusal? = none →
      Step path c (.filling loc c.reach, fs) (.filled loc, copyMode path loc fs)
  | sync {loc : Location} {fs : FileSystem} : Step path c (.filled loc, fs) (.durable loc, fs)
  | rename {loc : Location} {fs fs' : FileSystem} :
      rename loc path fs = .ok () fs' →
      Step path c (.durable loc, fs) (.ended, fs')
  | cutOff {stage : Stage} {fs : FileSystem} : Step path c (stage, fs) (.ended, fs)
  | giveUp {stage : Stage} {loc : Location} {fs : FileSystem} :
      stage.temporary? = some loc →
      Step path c (stage, fs) (.ended, fs.remove loc)

structure Race where
  fs : FileSystem
  calls : List Call

namespace Race

inductive Next (path : String) : Race → Race → Prop
  | call {fs fs' : FileSystem} {before after : List Call} {c : Call} {stage : Stage} :
      Step path c (c.stage, fs) (stage, fs') →
      Next path ⟨fs, before ++ c :: after⟩ ⟨fs', before ++ { c with stage } :: after⟩

/-- What can be reached when the calls start in a file system. -/
inductive Reached (path : String) (fs : FileSystem) (calls : List Call) : Race → Prop
  | start : (∀ c ∈ calls, c.stage = .opening) → Reached path fs calls ⟨fs, calls⟩
  | next {r r' : Race} :
      Reached path fs calls r → Next path r r' → Reached path fs calls r'

end Race

end Replacement

end Understudy
