import Understudy.Text.Bytes
import Understudy.Toml.Statement

/-!
# TOML documents

The statements of a document build its tables one after the other. A key is
defined once. A header passes through any table and through the latest table of
an array, and may open once a table that so far only stood between others in a
header. A dotted key passes through the same but for tables that a header opened;
the table that takes its value must be one that dotted keys made. A value that is
written as an array or an inline table is closed.
-/

set_option autoImplicit false

namespace Understudy.Toml

/-- How a table came to be. -/
inductive Origin where
  | header
  | implied
  | dottedKey
  deriving DecidableEq, Repr

/-- Whether a dotted key may go into a table: to put its value there, or to go on. -/
def Origin.admits (last : Bool) : Origin → Bool
  | .header => false
  | .implied => !last
  | .dottedKey => true

inductive Node where
  | value (value : Value)
  | table (origin : Origin) (entries : List (String × Node))
  | tables (earlier : List (List (String × Node))) (latest : List (String × Node))

namespace Node

abbrev Entries := List (String × Node)

def get? (key : String) (entries : Entries) : Option Node :=
  (entries.find? fun e => e.1 == key).map (·.2)

def set (key : String) (node : Node) (entries : Entries) : Entries :=
  (key, node) :: entries.filter fun e => e.1 != key

/-- Changes the table at the end of a path and makes the tables on the way. -/
def within (dotted : Bool) (change : Entries → Option Entries) :
    List String → Entries → Option Entries
  | [], entries => change entries
  | key :: keys, entries =>
    match get? key entries with
    | none => do
      let made ← within dotted change keys []
      some (set key (.table (if dotted then .dottedKey else .implied) made) entries)
    | some (.table origin old) =>
      if dotted && !origin.admits keys.isEmpty then none
      else do
        let changed ← within dotted change keys old
        some (set key (.table origin changed) entries)
    | some (.tables earlier latest) =>
      if dotted && keys.isEmpty then none
      else do
        let changed ← within dotted change keys latest
        some (set key (.tables earlier changed) entries)
    | some (.value _) => none

def atLast (dotted : Bool) (path : List String) (change : String → Entries → Option Entries)
    (entries : Entries) : Option Entries := do
  let key ← path.getLast?
  within dotted (change key) path.dropLast entries

def define (path : List String) (value : Value) : Entries → Option Entries :=
  atLast true path fun key entries =>
    match get? key entries with
    | none => some (set key (.value value) entries)
    | some _ => none

def defineAll (pairs : List (List String × Value)) (entries : Entries) : Option Entries :=
  pairs.foldlM (fun entries pair => define pair.1 pair.2 entries) entries

def openTable (path : List String) (pairs : List (List String × Value)) : Entries → Option Entries :=
  atLast false path fun key entries =>
    match get? key entries with
    | none => do some (set key (.table .header (← defineAll pairs [])) entries)
    | some (.table .implied old) => do
      some (set key (.table .header (← defineAll pairs old)) entries)
    | some _ => none

def addTable (path : List String) (pairs : List (List String × Value)) : Entries → Option Entries :=
  atLast false path fun key entries =>
    match get? key entries with
    | none => do some (set key (.tables [] (← defineAll pairs [])) entries)
    | some (.tables earlier latest) => do
      some (set key (.tables (earlier ++ [latest]) (← defineAll pairs [])) entries)
    | some _ => none

def insertEntry (entry : String × Value) : Table → Table
  | [] => [entry]
  | e :: es => if Text.before entry.1 e.1 then entry :: e :: es else e :: insertEntry entry es

mutual

def toValue : Node → Value
  | .value v => v
  | .table _ entries => .table (toTable entries)
  | .tables earlier latest => .array (toTables earlier ++ [.table (toTable latest)])

def toTable : List (String × Node) → Table
  | [] => []
  | (key, node) :: rest => insertEntry (key, node.toValue) (toTable rest)

def toTables : List (List (String × Node)) → List Value
  | [] => []
  | entries :: rest => .table (toTable entries) :: toTables rest

end

end Node

namespace Term

mutual

def value? : Term → Option Value
  | .scalar v => some v
  | .array items => do some (.array (← values? items))
  | .inlineTable entries => do
    some (.table (Node.toTable (← Node.defineAll (← pairs? entries) [])))

def values? : List Term → Option (List Value)
  | [] => some []
  | t :: ts => do some ((← t.value?) :: (← values? ts))

def pairs? : List (List String × Term) → Option (List (List String × Value))
  | [] => some []
  | (path, t) :: rest => do some ((path, ← t.value?) :: (← pairs? rest))

end

end Term

namespace Document

def leadingPairs : List Statement → List (List String × Term) × List Statement
  | .pair path term :: rest =>
    let (pairs, rest) := leadingPairs rest
    ((path, term) :: pairs, rest)
  | rest => ([], rest)

theorem length_leadingPairs (statements : List Statement) :
    (leadingPairs statements).2.length ≤ statements.length := by
  fun_induction leadingPairs statements with
  | case1 path term rest pairs rest' h ih =>
    rw [h] at ih
    simp only [List.length_cons]
    exact Nat.le_succ_of_le ih
  | case2 statements => exact Nat.le_refl _

def build (entries : Node.Entries) : List Statement → Option Node.Entries
  | [] => some entries
  | .pair path term :: rest => do build (← Node.define path (← term.value?) entries) rest
  | .table path :: rest => do
    let pairs ← Term.pairs? (leadingPairs rest).1
    build (← Node.openTable path pairs entries) (leadingPairs rest).2
  | .arrayTable path :: rest => do
    let pairs ← Term.pairs? (leadingPairs rest).1
    build (← Node.addTable path pairs entries) (leadingPairs rest).2
termination_by statements => statements.length
decreasing_by
  all_goals simp only [List.length_cons]
  · omega
  · have := length_leadingPairs rest
    omega
  · have := length_leadingPairs rest
    omega

/-- The table that a text stands for, if it is a TOML document. -/
def parse? (text : String) : Option Table := do
  let tokens ← Token.ofText? text
  let statements ← Statement.ofTokens? tokens
  let entries ← build [] statements
  some (Node.toTable entries)

example : (parse? "[a.b.c]\n[a]\nb.d.e = 1").isSome ∧ (parse? "[a.b.c]\n[a]\nb.d = 1").isNone := by
  decide +kernel

end Document

end Understudy.Toml
