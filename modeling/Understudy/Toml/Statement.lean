import Understudy.Toml.Scalar

/-!
# TOML statements

A document is a list of statements: key and value pairs, and the headers of
tables and of arrays of tables. The values are still as written, so a key in an
inline table may be dotted. Reading takes at least one token for every two steps,
so the number of tokens bounds the steps; arrays and inline tables nest at most
eighty deep, and at most eighty keys are tied together by dots.
-/

set_option autoImplicit false

namespace Understudy.Toml

inductive Term where
  | scalar (value : Value)
  | array (items : List Term)
  | inlineTable (entries : List (List String × Term))
  deriving Repr

inductive Statement where
  | pair (path : List String) (term : Term)
  | table (path : List String)
  | arrayTable (path : List String)
  deriving Repr

namespace Statement

def maxDepth : Nat := 80

def maxKeys : Nat := 80

def skipBlank : List Token → List Token
  | .blank _ :: ts => ts
  | ts => ts

def skipLines (ts : List Token) : List Token :=
  ts.dropWhile fun t => match t with
    | .blank _ => true
    | .newline => true
    | _ => false

def isKeyChar (c : Char) : Bool :=
  let n := c.toNat
  c.isAlphanum && n < 128 || c = '-' || c = '_'

def key? : List Token → Option (String × List Token)
  | .word cs :: ts => if cs.all isKeyChar then some (String.ofList cs, ts) else none
  | .string text false :: ts => some (text, ts)
  | _ => none

def keys? : (most : Nat) → List Token → Option (List String × List Token)
  | 0, _ => none
  | most + 1, ts => do
    let (key, ts) ← key? ts
    match skipBlank ts with
    | .mark '.' :: ts =>
      let (keys, ts) ← keys? most (skipBlank ts)
      some (key :: keys, ts)
    | ts => some ([key], ts)

def path? (ts : List Token) : Option (List String × List Token) := keys? maxKeys ts

def dotted : List Token → List Char × List Token
  | .mark '.' :: .word cs :: ts =>
    let (more, ts) := dotted ts
    ('.' :: cs ++ more, ts)
  | ts => ([], ts)

/-- The characters of a scalar that starts with a word. A time may follow its
date after one space. -/
def scalarChars (cs : List Char) (ts : List Token) : List Char × List Token :=
  match ts with
  | .blank [' '] :: .word time :: rest =>
    if Scalar.isDate cs then
      let (more, rest) := dotted rest
      (cs ++ ' ' :: time ++ more, rest)
    else (cs, ts)
  | _ =>
    let (more, rest) := dotted ts
    (cs ++ more, rest)

mutual

def term? : (steps depth : Nat) → List Token → Option (Term × List Token)
  | 0, _, _ => none
  | steps + 1, depth, ts =>
    match ts with
    | .string text _ :: ts => some (.scalar (.string text), ts)
    | .word cs :: ts => do
      let (chars, ts) := scalarChars cs ts
      some (.scalar (← Scalar.value? chars), ts)
    | .mark '[' :: ts =>
      if depth < maxDepth then do
        let (items, ts) ← items? steps (depth + 1) (skipLines ts)
        some (.array items, ts)
      else none
    | .mark '\x7b' :: ts =>
      if depth < maxDepth then do
        let (entries, ts) ← entries? steps (depth + 1) (skipLines ts)
        some (.inlineTable entries, ts)
      else none
    | _ => none

def items? : (steps depth : Nat) → List Token → Option (List Term × List Token)
  | 0, _, _ => none
  | steps + 1, depth, ts =>
    match ts with
    | .mark ']' :: ts => some ([], ts)
    | ts => do
      let (item, ts) ← term? steps depth ts
      match skipLines ts with
      | .mark ',' :: ts =>
        let (rest, ts) ← items? steps depth (skipLines ts)
        some (item :: rest, ts)
      | .mark ']' :: ts => some ([item], ts)
      | _ => none

/-- The entries of an inline table up to its closing brace. Lines may end anywhere
in it but within a path. -/
def entries? : (steps depth : Nat) → List Token → Option (List (List String × Term) × List Token)
  | 0, _, _ => none
  | steps + 1, depth, ts =>
    match ts with
    | .mark '\x7d' :: ts => some ([], ts)
    | ts => do
      let (path, ts) ← path? ts
      let .mark '=' :: ts := skipLines ts | none
      let (term, ts) ← term? steps depth (skipLines ts)
      match skipLines ts with
      | .mark ',' :: ts =>
        let (rest, ts) ← entries? steps depth (skipLines ts)
        some ((path, term) :: rest, ts)
      | .mark '\x7d' :: ts => some ([(path, term)], ts)
      | _ => none

end

def statement? (steps : Nat) (ts : List Token) : Option (Statement × List Token) :=
  match ts with
  | .mark '[' :: .mark '[' :: ts => do
    let (path, ts) ← path? (skipBlank ts)
    let .mark ']' :: .mark ']' :: ts := ts | none
    some (.arrayTable path, ts)
  | .mark '[' :: ts => do
    let (path, ts) ← path? (skipBlank ts)
    let .mark ']' :: ts := ts | none
    some (.table path, ts)
  | ts => do
    let (path, ts) ← path? ts
    let .mark '=' :: ts := ts | none
    let (term, ts) ← term? steps 0 (skipBlank ts)
    some (.pair path term, ts)

def read : (steps : Nat) → List Token → Option (List Statement)
  | 0, ts => if (skipLines ts).isEmpty then some [] else none
  | steps + 1, ts =>
    match skipLines ts with
    | [] => some []
    | ts => do
      let (statement, ts) ← statement? (2 * ts.length + 1) ts
      match skipBlank ts with
      | [] => some [statement]
      | .newline :: ts =>
        let rest ← read steps ts
        some (statement :: rest)
      | _ => none

def ofTokens? (ts : List Token) : Option (List Statement) := read ts.length ts

end Statement

end Understudy.Toml
