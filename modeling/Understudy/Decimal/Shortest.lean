import Understudy.Decimal.Double

/-!
# The shortest text of a double

A finite double is written with the fewest digits that round back to it, the
nearest such digits, without an exponent and always with a point. On each
decimal grid only the two neighbours of the number need a test: if any point of
the grid rounds back, so does one of them.
-/

set_option autoImplicit false

namespace Understudy.Decimal

/-- The numbers that round to a double, as numerators over one denominator;
the ends belong to them if `closed`. -/
structure Interval where
  low : Nat
  value : Nat
  high : Nat
  den : Nat
  closed : Bool

def interval (m : Nat) (q : Int) : Interval :=
  let up := Nat.pow 2 q.toNat
  let lower := if m = Nat.pow 2 52 ∧ minExponent < q then 1 else 2
  { low := (4 * m - lower) * up
    value := 4 * m * up
    high := (4 * m + 2) * up
    den := 4 * Nat.pow 2 (-q).toNat
    closed := m % 2 = 0 }

namespace Interval

def contains (i : Interval) (digits : Nat) (place : Int) : Bool :=
  let num := digits * Nat.pow 10 place.toNat * i.den
  let scale := Nat.pow 10 (-place).toNat
  if i.closed then i.low * scale ≤ num && num ≤ i.high * scale
  else i.low * scale < num && num < i.high * scale

/-- The digits of the grid of `10 ^ place` that round back: the nearer of two, and
of two equally near the greater. -/
def onGrid? (i : Interval) (place : Int) : Option Nat :=
  let num := i.value * Nat.pow 10 (-place).toNat
  let den := i.den * Nat.pow 10 place.toNat
  let below := num / den
  match i.contains below place, i.contains (below + 1) place with
  | true, true => some (if 2 * (num % den) < den then below else below + 1)
  | true, false => some below
  | false, true => some (below + 1)
  | false, false => none

def search (i : Interval) : (grids : Nat) → (place : Int) → Nat × Int
  | 0, place => (0, place)
  | grids + 1, place =>
    match i.onGrid? place with
    | some digits => if digits = 0 then search i grids (place - 1) else (digits, place)
    | none => search i grids (place - 1)

end Interval

/-- The fewest digits of a double, and the place of the last of them. -/
def shortest (m : Nat) (q : Int) : Nat × Int :=
  (interval m q).search 800 330

def positional (digits : Nat) (place : Int) : String :=
  let ds := Nat.toDigits 10 digits
  let whole := (ds.length : Int) + place
  String.ofList <|
    if 0 ≤ place then ds ++ List.replicate place.toNat '0' ++ ['.', '0']
    else if 0 < whole then ds.take whole.toNat ++ ['.'] ++ ds.drop whole.toNat
    else '0' :: '.' :: List.replicate (-whole).toNat '0' ++ ds

namespace Double

def text : Double → String
  | nan => "NaN"
  | infinite negative => if negative then "-inf" else "inf"
  | finite negative m q =>
    let sign := if negative then "-" else ""
    if m = 0 then sign ++ "0.0"
    else
      let (digits, place) := shortest m q
      sign ++ positional digits place

end Double

end Understudy.Decimal
