/-!
# Decimal numbers and binary ones

A decimal literal stands for the double that is nearest to it, a tie going to
the even one. A double is a mantissa below 2 ^ 53 times a power of two; what is
too large for any has no double. All arithmetic is exact.
-/

set_option autoImplicit false

namespace Understudy.Decimal

inductive Literal where
  | finite (negative : Bool) (digits : Nat) (exponent : Int)
  | infinite (negative : Bool)
  | nan
  deriving DecidableEq, Repr

inductive Double where
  | finite (negative : Bool) (mantissa : Nat) (exponent : Int)
  | infinite (negative : Bool)
  | nan
  deriving DecidableEq, Repr

/-- The quotient rounded to the nearest number, a tie to the even one. -/
def roundHalfEven (num den : Nat) : Nat :=
  let q := num / den
  let r := num % den
  if 2 * r < den then q
  else if den < 2 * r then q + 1
  else if q % 2 = 0 then q else q + 1

def binaryExponent (num den : Nat) : Int :=
  let e : Int := (Nat.log2 num : Int) - Nat.log2 den
  if num * Nat.pow 2 (-e).toNat < den * Nat.pow 2 e.toNat then e - 1 else e

def minExponent : Int := -1074

def maxExponent : Int := 971

/-- The mantissa and exponent nearest to a quotient, unless it is too large. -/
def nearest (num den : Nat) : Option (Nat × Int) :=
  let q := max (binaryExponent num den - 52) minExponent
  let m := roundHalfEven (num * Nat.pow 2 (-q).toNat) (den * Nat.pow 2 q.toNat)
  let (m, q) := if m = Nat.pow 2 53 then (Nat.pow 2 52, q + 1) else (m, q)
  if maxExponent < q then none else some (m, q)

def hugePlace : Int := 400

namespace Literal

def double? : Literal → Option Double
  | nan => some .nan
  | infinite negative => some (.infinite negative)
  | finite negative digits exponent =>
    let place := ((Nat.toDigits 10 digits).length : Int) + exponent
    if digits = 0 ∨ place < -hugePlace then some (.finite negative 0 minExponent)
    else if hugePlace < place then none
    else
      (nearest (digits * Nat.pow 10 exponent.toNat) (Nat.pow 10 (-exponent).toNat)).map
        fun (m, q) => .finite negative m q

end Literal

end Understudy.Decimal
