import PixelMachine.CommandLine.Invocation
import PixelMachine.CommandLine.Services
import PixelMachine.Json.Machine

/-!
# Answers of the command

The command loads a manifest, runs its program and prints the output, and then the last state if it is
asked for. It tells what it does in its log, and whether the program stopped by itself in its exit
code. The output is printed also of a program that did not. The flags for the log decide only which
records of the log are shown. Without a limit on the steps there is no answer to a program that never stops.
-/

set_option autoImplicit false

namespace PixelMachine.CommandLine

open Json (encode)

/-- What the command says about its own work. -/
inductive Notice where
  /-- The manifest was not loaded. -/
  | notLoaded (path : String) (error : ManifestError)
  /-- The manifest was loaded. -/
  | loaded (name path : String)
  /-- The manifest does not make up a grid. -/
  | invalid (name : String) (error : ManifestError)
  /-- The size of the grid. -/
  | size (width height : Nat)
  /-- The last state cannot be written. -/
  | notEncoded (reason : String)
  /-- The program stopped by itself. -/
  | halted (steps : Nat)
  /-- The program was stopped at the limit. -/
  | stepLimit (limit : Nat)
  /-- A step of the program failed. -/
  | failed (error : StepError)
  deriving DecidableEq

namespace Notice

/-- How important a notice is. -/
def level : Notice → Log.Level
  | notLoaded _ _ | invalid _ _ | notEncoded _ | stepLimit _ | failed _ => .error
  | loaded _ _ | size _ _ | halted _ => .info

/-- What a notice says. -/
def message : Notice → String
  | notLoaded path error => s!"Failed to load manifest '{path}': {error.message}"
  | loaded name path => s!"Loaded program: {name} ({path})"
  | invalid name error => s!"Invalid program '{name}': {error.message}"
  | size width height => s!"  Grid: {width}x{height}"
  | notEncoded reason => s!"Failed to encode snapshot: {reason}"
  | halted steps => s!"Halted after {steps} steps"
  | stepLimit limit => s!"Program did not halt within {limit} steps"
  | failed error => s!"Program failed: {error.message}"

/-- What the result of a run is reported as. -/
def ofResult : Except DriveError Report → Notice
  | .ok report => halted report.steps
  | .error (.stepLimit limit) => stepLimit limit
  | .error (.step error) => failed error

end Notice

/-- An entry of the command's log, before it is written. -/
inductive Entry where
  /-- A notice about its own work. -/
  | notice (notice : Notice)
  /-- An event of the machine or its driver. -/
  | event (event : Event)
  deriving DecidableEq

namespace Entry

/-- What decides whether an entry is shown. -/
def heading : Entry → Log.Heading
  | notice n => ⟨n.level, .commandLine, []⟩
  | event e => e.heading

/-- The record of an entry. -/
def record : Entry → Log.Record
  | notice n => ⟨n.level, .commandLine, n.message, []⟩
  | event e => e.record

end Entry

/-- What the command does. -/
structure Answer where
  /-- The exit code. -/
  exitCode : Nat
  /-- What is printed. -/
  stdout : String
  /-- The log, before it is filtered. -/
  entries : List Entry
  deriving DecidableEq

/-- What is printed after the output: the snapshot of the machine on lines of its own, if it is asked for. -/
def Invocation.dumped (i : Invocation) (services : Services) (m : Machine) : Except String String :=
  if i.dump then (services.writeJson (encode m.snapshot)).map (· ++ "\n") else .ok ""

/-- Runs the program of a machine. `loaded` is the log up to there. -/
def Invocation.runMachine (i : Invocation) (services : Services) (m : Machine) (loaded : List Notice) :
    Option Answer := do
  let d ← m.drive i.steps.toNat
  let printed := d.machine.state.output.text ++ "\n"
  let notices := loaded ++ [Notice.size m.grid.width m.grid.height]
  let entries := notices.map Entry.notice ++ d.events.toList.map Entry.event
  match i.dumped services d.machine with
  | .ok dump =>
    some ⟨if d.result.isOk then 0 else 1, printed ++ dump, entries ++ [.notice (.ofResult d.result)]⟩
  | .error reason => some ⟨1, printed, entries ++ [.notice (.notEncoded reason)]⟩

/-- Carries out an invocation; `content` is what is found under its path. -/
def Invocation.answer (i : Invocation) (services : Services) (content : Except FileError ByteArray) :
    Option Answer :=
  match Manifest.ofFile services.readManifest content with
  | .error e => some ⟨1, "", [.notice (.notLoaded i.manifest e)]⟩
  | .ok manifest =>
    let loaded := Notice.loaded manifest.metadata.name i.manifest
    match manifest.machine i.input with
    | .error e => some ⟨1, "", [.notice loaded, .notice (.invalid manifest.metadata.name e)]⟩
    | .ok m => i.runMachine services m [loaded]

/-- The standard filter of the log, as it is written: what the machine does is told in full or only from
information on. -/
def standardFilter (trace : Bool) : String :=
  if trace then "info,palettette_vm=trace,palettette_run=debug"
  else "info,palettette_vm=info,palettette_run=debug"

/-- The filter of the log: the one in the environment if it is one, else the standard one. -/
def Invocation.filter (i : Invocation) (services : Services) (environment : Option String) :
    Log.Heading → Bool :=
  (environment.bind services.filter?).getD (services.filter (standardFilter i.trace))

/-- What an invocation shows to the outside. -/
structure Outcome where
  /-- The lines of the log that are shown. -/
  log : List String
  /-- What is printed. -/
  stdout : String
  /-- The exit code. -/
  exitCode : Nat
  deriving DecidableEq

/-- What an answer shows, if only the entries that a filter lets through are shown. -/
def Answer.outcome (a : Answer) (shows : Log.Heading → Bool) : Outcome :=
  ⟨(a.entries.filter fun e => shows e.heading).map fun e => e.record.line, a.stdout, a.exitCode⟩

/-- What an invocation shows, with the filter that the environment holds, if it holds one. -/
def Invocation.outcome (i : Invocation) (services : Services) (content : Except FileError ByteArray)
    (environment : Option String) : Option Outcome :=
  (i.answer services content).map (·.outcome (i.filter services environment))

/-- The exit code for arguments that are refused. -/
def usageExitCode : Nat := 2

/-- The explanation of the arguments. -/
def helpText : String :=
  "Execute a Palettette program from a YAML manifest\n\n" ++
  "Usage: palettette-run [OPTIONS] <MANIFEST>\n\n" ++
  "Arguments:\n" ++
  "  <MANIFEST>  Path to the program manifest (YAML)\n\n" ++
  "Options:\n" ++
  "      --steps <STEPS>  Maximum number of steps before giving up (0 = unbounded) " ++
  "[default: 10000]\n" ++
  "      --input <INPUT>  Input characters, overriding the manifest's \x60input\x60\n" ++
  "      --trace          Log every executed instruction\n" ++
  "      --dump           Print the final interpreter snapshot as JSON\n" ++
  "  -h, --help           Print help\n"

end PixelMachine.CommandLine
