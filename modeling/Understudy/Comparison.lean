import Understudy.Text.Lines
import Understudy.Text.Quoted

/-!
# Comparing two texts line by line

Two texts that differ are reported by the numbers at which their lines differ,
with a placeholder where one of them has no line. When no line differs the
endings do, and the report says so.
-/

set_option autoImplicit false

namespace Understudy.Comparison

open Understudy.Text

structure Difference where
  number : Nat
  expected : String
  actual : String
  deriving DecidableEq, Repr

def placeholder : String := "<missing>"

def paired (expected actual : List String) : List (String × String) :=
  List.zipWithAll (fun e a => (e.getD placeholder, a.getD placeholder)) expected actual

def differences (expected actual : List String) : List Difference :=
  ((paired expected actual).zipIdx 1).filterMap fun ((e, a), number) =>
    if e = a then none else some ⟨number, e, a⟩

/-- Nothing when the texts are equal. -/
def compare (expected actual : String) : Option (List Difference) :=
  if expected = actual then none else some (differences (lines expected) (lines actual))

def Difference.message (d : Difference) : String :=
  "Line " ++ toString d.number ++ ":\n  expected: " ++ quote d.expected ++
    "\n  actual:   " ++ quote d.actual ++ "\n"

def message (ds : List Difference) : String :=
  "Content mismatch:\n" ++
    if ds.isEmpty then "  (line endings differ)\n" else String.join (ds.map Difference.message)

end Understudy.Comparison
