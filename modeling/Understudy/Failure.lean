import Understudy.Files.Cause
import Understudy.Output.Encoding

/-!
# Failures of generation

What can go wrong between rendering and the finished file, each with the message
that reports it and with what caused it.
-/

set_option autoImplicit false

namespace Understudy

inductive Failure where
  | noSink (path : String) (cause : Cause)
  | notEncodable (encoding : Encoding) (offset : Nat)
  | notWritten (cause : Cause)
  | notReplaced (path : String) (cause : Cause)
  | notRendered (position : Nat) (cause : String)
  deriving DecidableEq, Repr

namespace Failure

def message : Failure → String
  | noSink path _ => "unable to create output sink at '" ++ path ++ "'"
  | notEncodable encoding offset =>
    "unable to encode fragment as " ++ encoding.name ++ ": byte " ++ toString offset ++
      " is not representable"
  | notWritten _ => "failed to write to output sink"
  | notReplaced path _ => "failed to replace '" ++ path ++ "' with the generated file"
  | notRendered position _ => "failed to render unit at position " ++ toString position

def cause? : Failure → Option String
  | noSink _ cause => some cause.message
  | notEncodable _ _ => none
  | notWritten cause => some cause.message
  | notReplaced _ cause => some cause.message
  | notRendered _ cause => some cause

def messages (f : Failure) : List String := f.message :: f.cause?.toList

end Failure

end Understudy
