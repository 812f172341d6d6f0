/-!
# Arguments of the command line

The arguments name a command and set switches. A switch has a name of its own, a
few have a letter too, and letters can be put together behind one dash; a value
follows its switch or is attached to it. Anything else, a switch set twice
included, is a misuse. Asking for help or for the version stops the reading.
-/

set_option autoImplicit false

namespace Understudy.CommandLine

inductive Switch where
  | help
  | version
  | verbose
  | config
  | output
  | onlyProtocols
  | noAtomic
  | jobs
  | condition
  | dryRun
  deriving DecidableEq, Repr

namespace Switch

def name : Switch → String
  | help => "help"
  | version => "version"
  | verbose => "verbose"
  | config => "config"
  | output => "output"
  | onlyProtocols => "only-protocols"
  | noAtomic => "no-atomic"
  | jobs => "jobs"
  | condition => "condition"
  | dryRun => "dry-run"

def letter? : Switch → Option Char
  | help => some 'h'
  | version => some 'V'
  | verbose => some 'v'
  | config => some 'c'
  | output => some 'o'
  | jobs => some 'j'
  | _ => none

def takesValue : Switch → Bool
  | config => true
  | output => true
  | jobs => true
  | condition => true
  | _ => false

end Switch

inductive Stop where
  | misuse
  | help
  | version
  deriving DecidableEq, Repr

structure Options where
  config : String := "mockgen.toml"
  output : Option String := none
  onlyProtocols : Bool := false
  noAtomic : Bool := false
  jobs : Option Nat := none
  condition : Option String := none
  dryRun : Bool := false
  deriving DecidableEq, Repr

def count? (text : String) : Option Nat :=
  let digits := match text.toList with
    | '+' :: ds => ds
    | ds => ds
  if digits ≠ [] ∧ digits.all Char.isDigit then
    let n := digits.foldl (fun n d => n * 10 + (d.toNat - '0'.toNat)) 0
    if n < Nat.pow 2 64 then some n else none
  else none

def path? (text : String) : Option String := if text = "" then none else some text

def Options.set (o : Options) (switch : Switch) (value : String) : Except Stop Options :=
  match switch with
  | .help => .error .help
  | .version => .error .version
  | .verbose => .ok o
  | .config => given (path? value) fun p => { o with config := p }
  | .output => given (path? value) fun p => { o with output := some p }
  | .onlyProtocols => .ok { o with onlyProtocols := true }
  | .noAtomic => .ok { o with noAtomic := true }
  | .jobs => given (count? value) fun n => { o with jobs := some n }
  | .condition => .ok { o with condition := some value }
  | .dryRun => .ok { o with dryRun := true }
where
  given {α : Type} (value : Option α) (use : α → Options) : Except Stop Options :=
    match value with
    | some a => .ok (use a)
    | none => .error .misuse

structure Progress where
  seen : List Switch := []
  options : Options := {}

def Progress.set (p : Progress) (switch : Switch) (value : String) : Except Stop Progress := do
  if switch ∈ p.seen then throw .misuse
  else return { seen := switch :: p.seen, options := ← p.options.set switch value }

abbrev Awaiting := Progress × Option Switch

def byName (allowed : List Switch) (cs : List Char) (p : Progress) : Except Stop Awaiting :=
  let name := String.ofList (cs.takeWhile (· ≠ '='))
  match allowed.find? (fun s => s.name == name), cs.dropWhile (· ≠ '=') with
  | none, _ => .error .misuse
  | some s, [] => if s.takesValue then .ok (p, some s) else do return (← p.set s "", none)
  | some s, _ :: value =>
    if s.takesValue then do return (← p.set s (String.ofList value), none) else .error .misuse

def attached : List Char → String
  | '=' :: cs => String.ofList cs
  | cs => String.ofList cs

def byLetters (allowed : List Switch) : List Char → Progress → Except Stop Awaiting
  | [], p => .ok (p, none)
  | c :: cs, p =>
    match allowed.find? fun s => s.letter? == some c with
    | none => .error .misuse
    | some s =>
      if s.takesValue then
        if cs.isEmpty then .ok (p, some s) else do return (← p.set s (attached cs), none)
      else do byLetters allowed cs (← p.set s "")

def isValue (text : String) : Bool := text == "-" || text.toList.head? != some '-'

/-- Reads switches up to the first word, which is given back with what follows it. -/
def readSwitches (allowed : List Switch) :
    List String → Progress → Except Stop (Progress × Option (String × List String))
  | [], p => .ok (p, none)
  | arg :: rest, p =>
    if arg = "--" then if rest.isEmpty then .ok (p, none) else .error .misuse
    else if isValue arg then .ok (p, some (arg, rest))
    else do
      let (p, awaiting) ← match arg.toList with
        | '-' :: '-' :: cs => byName allowed cs p
        | cs => byLetters allowed cs.tail p
      match awaiting with
      | none => readSwitches allowed rest p
      | some s =>
        match rest with
        | [] => throw .misuse
        | value :: others =>
          if isValue value then readSwitches allowed others (← p.set s value) else throw .misuse

def readOptions (allowed : List Switch) (args : List String) : Except Stop Options := do
  match ← readSwitches allowed args {} with
  | (p, none) => return p.options
  | (_, some _) => throw .misuse

inductive Command where
  | generate (options : Options)
  | list (config : String)
  deriving DecidableEq, Repr

def commonSwitches : List Switch := [.verbose, .help]

def listSwitches : List Switch := .config :: commonSwitches

def generateSwitches : List Switch :=
  [.config, .output, .onlyProtocols, .noAtomic, .jobs, .condition, .dryRun] ++ commonSwitches

def Command.read (word : String) (args : List String) : Except Stop Command := do
  match word with
  | "generate" => return .generate (← readOptions generateSwitches args)
  | "list" => return .list (← readOptions listSwitches args).config
  | "help" => throw (if isTopic args then .help else .misuse)
  | _ => throw .misuse
where
  isTopic (args : List String) : Bool := [[], ["generate"], ["list"], ["help"]].contains args

def parse (args : List String) : Except Stop Command := do
  match ← readSwitches (.version :: commonSwitches) args {} with
  | (_, some (word, rest)) => Command.read word rest
  | (_, none) => throw .misuse

example : parse ["-v", "list", "-cx.toml"] matches .ok (.list "x.toml") := by decide +kernel
example : parse ["generate", "-j", "-1"] matches .error .misuse := by decide +kernel

end Understudy.CommandLine
