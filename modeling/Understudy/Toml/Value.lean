import Understudy.Decimal.Shortest
import Understudy.Text.Quoted

/-!
# TOML values

The values of a TOML document. A date or time is kept as it was written, a
number exactly. The entries of a table have distinct keys in byte order.
-/

set_option autoImplicit false

namespace Understudy.Toml

inductive Value where
  | string (text : String)
  | integer (value : Int)
  | float (literal : Decimal.Literal)
  | boolean (value : Bool)
  | datetime (text : String)
  | array (items : List Value)
  | table (entries : List (String × Value))
  deriving Repr

abbrev Table := List (String × Value)

namespace Value

def isWord (n : Int) : Bool := -(Int.pow 2 63) ≤ n && n < Int.pow 2 63

section Numbers

variable (refused : Int → Bool)

mutual

/-- Whether a value holds an integer that is refused, or a number too large for
any double. -/
def anyNumber : Value → Bool
  | .integer n => refused n
  | .float literal => literal.double?.isNone
  | .array items => anyNumberIn items
  | .table entries => anyNumberAmong entries
  | _ => false

def anyNumberIn : List Value → Bool
  | [] => false
  | v :: vs => v.anyNumber || anyNumberIn vs

def anyNumberAmong : List (String × Value) → Bool
  | [] => false
  | (_, v) :: es => v.anyNumber || anyNumberAmong es

end

end Numbers

/-- A number that 64 bits, with a sign for an integer, cannot hold. -/
def holdsWide (v : Value) : Bool := v.anyNumber fun n => !isWord n

/-- A number that not even 128 bits can hold, with a sign or without. -/
def unreadable (v : Value) : Bool := v.anyNumber fun n => n < -(Int.pow 2 127) || Int.pow 2 128 ≤ n

def description : Value → String
  | string text => "string " ++ Text.quote text
  | integer n => "integer \x60" ++ toString n ++ "\x60"
  | float literal =>
    "floating point \x60" ++ (literal.double?.elim "" Decimal.Double.text) ++ "\x60"
  | boolean b => "boolean \x60" ++ toString b ++ "\x60"
  | datetime _ => "map"
  | array _ => "sequence"
  | table _ => "map"

def typeName : Value → String
  | string _ => "string"
  | integer _ => "integer"
  | float _ => "float"
  | boolean _ => "boolean"
  | datetime _ => "datetime"
  | array _ => "array"
  | table _ => "table"

end Value

end Understudy.Toml
