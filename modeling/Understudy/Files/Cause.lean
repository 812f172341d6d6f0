/-!
# Causes of input and output failures

Each cause has the wording under which a reader of the report knows it. The
causes that the operating system gives come with its number for them.
-/

set_option autoImplicit false

namespace Understudy

inductive Cause where
  | notFound
  | alreadyExists
  | notADirectory
  | isADirectory
  | permissionDenied
  | resourceBusy
  | invalidFilename
  | filesystemLoop
  | storageFull
  | invalidInput
  | invalidData
  | writeZero
  | interrupted
  deriving DecidableEq, Repr

namespace Cause

def number? : Cause → Option Nat
  | notFound => some 2
  | interrupted => some 4
  | permissionDenied => some 13
  | resourceBusy => some 16
  | alreadyExists => some 17
  | notADirectory => some 20
  | isADirectory => some 21
  | storageFull => some 28
  | invalidFilename => some 36
  | filesystemLoop => some 40
  | invalidInput | invalidData | writeZero => none

def text : Cause → String
  | notFound => "No such file or directory"
  | alreadyExists => "File exists"
  | notADirectory => "Not a directory"
  | isADirectory => "Is a directory"
  | permissionDenied => "Permission denied"
  | resourceBusy => "Device or resource busy"
  | invalidFilename => "File name too long"
  | filesystemLoop => "Too many levels of symbolic links"
  | storageFull => "No space left on device"
  | invalidInput => "file name contained an unexpected NUL byte"
  | invalidData => "stream did not contain valid UTF-8"
  | writeZero => "failed to write whole buffer"
  | interrupted => "Interrupted system call"

def message (c : Cause) : String :=
  match c.number? with
  | some number => c.text ++ " (os error " ++ toString number ++ ")"
  | none => c.text

end Cause

end Understudy
