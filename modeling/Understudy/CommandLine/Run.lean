import Understudy.CommandLine.Arguments
import Understudy.Generation
import Understudy.Settings.Decoding

/-!
# Running a command

A command reads its settings, lets the options take the place of what they set,
and lists the types, prints the document or writes it. Its result is an exit
code, the text for standard output and the chain of an error report, the outermost
message first. The plan of a command needs the text of the settings file only,
so that whatever can fail before the write is decided without a file system.
-/

set_option autoImplicit false

namespace Understudy.CommandLine

open Settings (Link)

structure Result where
  exit : Nat := 0
  output : String := ""
  report : List Link := []
  deriving DecidableEq, Repr

namespace Result

def failed (report : List Link) : Result := { exit := 1, report }

def ofStop : Stop → Result
  | .misuse => { exit := 2 }
  | .help => {}
  | .version => { output := Header.toolName ++ " " ++ Header.toolVersion ++ "\n" }

end Result

/-- An option that is not given changes nothing. -/
def Options.apply (o : Options) (s : Settings) : Settings :=
  { s with
    output := o.output.getD s.output
    onlyProtocols := o.onlyProtocols || s.onlyProtocols
    atomic := !o.noAtomic && s.atomic
    jobs := o.jobs <|> s.jobs
    condition := o.condition <|> s.condition }

def Options.settings (o : Options) (source : Except Cause String) :
    Except (List Link) Settings := do
  let s ← (Settings.load o.config source).mapError Settings.LoadFailure.chain
  if o.jobs = some 0 then throw [.message "--jobs must be at least 1"] else return o.apply s

def generationFailed (failure : Failure) : Result :=
  .failed (("Failed to generate mocks" :: failure.messages).map .message)

def reportText (r : Report) : String :=
  "Generated " ++ toString r.rendered ++ " mock" ++ (if r.rendered = 1 then "" else "s") ++ " (" ++
    toString r.bytes ++ " bytes, " ++ r.mode.name ++ " write)\n" ++
    (if r.skipped = 0 then "" else "Skipped " ++ toString r.skipped ++ " non-protocol type(s)\n") ++
    "Output: " ++ r.output ++ "\n"

def typeLine (d : Mock.Descriptor) : String :=
  "  " ++ d.name ++ " (" ++ d.kind.name ++ ", " ++ toString d.members.length ++ " members)\n"

def listing (units : List Mock.Descriptor) : String :=
  if units.isEmpty then "No types to mock\n"
  else "Types (" ++ toString units.length ++ "):\n" ++ String.join (units.map typeLine)

inductive Plan where
  | finish (result : Result)
  /-- The document has still to be written. -/
  | write (settings : Settings) (document : Document)

def Options.plan (o : Options) (source : Except Cause String) : Plan :=
  match o.settings source with
  | .error report => .finish (.failed report)
  | .ok s =>
    match s.assemble (Mock.template s.runtime) with
    | .error failure => .finish (generationFailed failure)
    | .ok d => if o.dryRun then .finish { output := d.content.text } else .write s d

def listTypes (config : String) (source : Except Cause String) : Result :=
  match Settings.load config source with
  | .error failure => .failed failure.chain
  | .ok s => { output := listing s.units }

namespace Command

def config : Command → String
  | generate o => o.config
  | list config => config

def plan (source : Except Cause String) : Command → Plan
  | generate o => o.plan source
  | list config => .finish (listTypes config source)

end Command

def written (s : Settings) (d : Document) : Option Failure → Result
  | some failure => generationFailed failure
  | none => { output := reportText (s.report d) }

def Plan.run (fs : FileSystem) : Plan → Result × FileSystem
  | finish result => (result, fs)
  | write s d =>
    match (s.file d).write fs with
    | .ok () fs => (written s d none, fs)
    | .error failure fs => (written s d (some failure), fs)

def run (args : List String) (fs : FileSystem) : Result × FileSystem :=
  match parse args with
  | .error stop => (.ofStop stop, fs)
  | .ok command => (command.plan (fs.readText command.config)).run fs

end Understudy.CommandLine
