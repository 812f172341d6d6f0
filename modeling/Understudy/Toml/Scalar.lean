import Understudy.Toml.Token
import Understudy.Toml.Value

/-!
# TOML scalars

Booleans, numbers, dates and times, from the characters they are written with.
Underscores may stand between digits. A decimal integer has no leading zero; a
date has to be in the calendar.
-/

set_option autoImplicit false

namespace Understudy.Toml.Scalar

def digitsFrom (base : Nat) (value : Nat) (afterDigit : Bool) : List Char → Option Nat
  | [] => if afterDigit then some value else none
  | '_' :: cs => if afterDigit then digitsFrom base value false cs else none
  | c :: cs =>
    match Token.hexDigit? c with
    | some d => if d < base then digitsFrom base (value * base + d) true cs else none
    | none => none

def digits? (base : Nat) (cs : List Char) : Option Nat := digitsFrom base 0 false cs

def signed : List Char → Bool × List Char
  | '-' :: cs => (true, cs)
  | '+' :: cs => (false, cs)
  | cs => (false, cs)

def decimal? (cs : List Char) : Option Nat :=
  match cs with
  | '0' :: _ :: _ => none
  | _ => digits? 10 cs

def negated (negative : Bool) (n : Nat) : Int := if negative then -n else n

def integer? (cs : List Char) : Option Value :=
  match cs with
  | '0' :: 'x' :: ds => (digits? 16 ds).map fun n => .integer n
  | '0' :: 'o' :: ds => (digits? 8 ds).map fun n => .integer n
  | '0' :: 'b' :: ds => (digits? 2 ds).map fun n => .integer n
  | _ =>
    let (negative, ds) := signed cs
    (decimal? ds).map fun n => .integer (negated negative n)

def isExponentMark (c : Char) : Bool := c = 'e' || c = 'E'

def exponent? : List Char → Option Int
  | [] => some 0
  | _ :: cs =>
    let (negative, ds) := signed cs
    (digits? 10 ds).map (negated negative)

def number? (negative : Bool) (cs : List Char) : Option Decimal.Literal := do
  let mantissa := cs.takeWhile fun c => !isExponentMark c
  let power := cs.dropWhile fun c => !isExponentMark c
  let whole := mantissa.takeWhile (· ≠ '.')
  let fraction := mantissa.dropWhile (· ≠ '.')
  let exponent ← exponent? power
  match fraction with
  | [] =>
    if power = [] then none
    else return .finite negative (← decimal? whole) exponent
  | _ :: places =>
    let whole ← decimal? whole
    let part ← digits? 10 places
    let count := places.countP (· ≠ '_')
    return .finite negative (whole * Nat.pow 10 count + part) (exponent - count)

def float? (cs : List Char) : Option Value :=
  let (negative, ds) := signed cs
  if ds = "inf".toList then some (.float (.infinite negative))
  else if ds = "nan".toList then some (.float .nan)
  else (number? negative ds).map .float

def fixed? (width : Nat) (cs : List Char) : Option Nat :=
  if cs.length = width ∧ cs.all Char.isDigit then digits? 10 cs else none

def isLeapYear (year : Nat) : Bool := year % 4 = 0 && (year % 100 ≠ 0 || year % 400 = 0)

def daysIn (year month : Nat) : Nat :=
  if month = 2 then if isLeapYear year then 29 else 28
  else if month = 4 ∨ month = 6 ∨ month = 9 ∨ month = 11 then 30
  else 31

def isDate (cs : List Char) : Bool :=
  match fixed? 4 (cs.take 4), cs.drop 4 with
  | some year, '-' :: m1 :: m2 :: '-' :: ds =>
    match fixed? 2 [m1, m2], fixed? 2 ds with
    | some month, some day =>
      1 ≤ month && month ≤ 12 && 1 ≤ day && day ≤ daysIn year month
    | _, _ => false
  | _, _ => false

def inRange (limit : Nat) (cs : List Char) : Bool := (fixed? 2 cs).any (· ≤ limit)

def isFraction : List Char → Bool
  | [] => true
  | '.' :: d :: ds => (d :: ds).all Char.isDigit
  | _ => false

def isTime : List Char → Bool
  | h1 :: h2 :: ':' :: m1 :: m2 :: rest =>
    inRange 23 [h1, h2] && inRange 59 [m1, m2] &&
      match rest with
      | [] => true
      | ':' :: s1 :: s2 :: fraction => inRange 60 [s1, s2] && isFraction fraction
      | _ => false
  | _ => false

def isOffsetTime (cs : List Char) : Bool :=
  let isOffset := fun c => c = 'Z' || c = 'z' || c = '+' || c = '-'
  let offset := cs.dropWhile fun c => !isOffset c
  isTime (cs.takeWhile fun c => !isOffset c) &&
    match offset with
    | [] => true
    | [z] => z = 'Z' || z = 'z'
    | sign :: h1 :: h2 :: ':' :: ms =>
      (sign = '+' || sign = '-') && inRange 23 [h1, h2] && inRange 59 ms
    | _ => false

def isDatetime (cs : List Char) : Bool :=
  let date := cs.take 10
  match cs.drop 10 with
  | [] => isDate date || isTime cs
  | c :: time =>
    isDate date && (c = 'T' || c = 't' || c = ' ') && isOffsetTime time || isTime cs

def value? (cs : List Char) : Option Value :=
  if cs = "true".toList then some (.boolean true)
  else if cs = "false".toList then some (.boolean false)
  else if isDatetime cs then some (.datetime (String.ofList cs))
  else integer? cs <|> float? cs

example : value? "1_000".toList matches some (.integer 1000) := by decide
example : (value? "1979-02-29".toList).isNone := by decide

end Understudy.Toml.Scalar
