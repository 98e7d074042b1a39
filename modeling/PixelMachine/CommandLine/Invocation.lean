import PixelMachine.Text.Decimal

/-!
# Invocations

The arguments of the command: the path of a manifest, `--steps` and `--input` with a value each, and the
flags `--trace` and `--dump`. A value follows its option as the next argument or after an equals sign; as
an argument of its own it does not start with a dash. Nothing may be given twice. After `--` every
argument is a path.
-/

set_option autoImplicit false

namespace PixelMachine.CommandLine

/-- What the command is asked to do. -/
structure Invocation where
  /-- The path of the manifest. -/
  manifest : String
  /-- The limit on the number of steps; zero is no limit. -/
  steps : UInt64
  /-- The input, in place of the one in the manifest. -/
  input : Option String
  /-- Whether the log tells every instruction. -/
  trace : Bool
  /-- Whether the last state is printed. -/
  dump : Bool
  deriving DecidableEq

/-- What the arguments ask for. -/
inductive Request where
  /-- An explanation of the arguments. -/
  | help
  /-- A run of a program. -/
  | run (invocation : Invocation)
  deriving DecidableEq

/-- Why arguments are refused. -/
inductive UsageError where
  /-- There is no path. -/
  | missingManifest
  /-- The path is empty. -/
  | emptyManifest
  /-- There is a second path. -/
  | unexpectedArgument (argument : String)
  /-- There is no such option. -/
  | unknownOption (argument : String)
  /-- An option is given twice. -/
  | repeated (option : String)
  /-- An option has no value. -/
  | missingValue (option : String)
  /-- A flag has a value. -/
  | unexpectedValue (option : String)
  /-- The limit is not a 64-bit number. -/
  | invalidSteps (value : String)
  deriving DecidableEq

/-- What is reported of arguments that are refused. -/
def UsageError.message : UsageError → String
  | missingManifest => "the following required arguments were not provided: <MANIFEST>"
  | emptyManifest => "a value is required for '<MANIFEST>' but none was supplied"
  | unexpectedArgument argument => s!"unexpected argument '{argument}' found"
  | unknownOption argument => s!"unexpected argument '{argument}' found"
  | repeated option => s!"the argument '--{option}' cannot be used multiple times"
  | missingValue option => s!"a value is required for '--{option}' but none was supplied"
  | unexpectedValue option => s!"unexpected value for '--{option}' found; no more were expected"
  | invalidSteps value => s!"invalid value '{value}' for '--steps'"

/-- The arguments read so far. -/
structure Draft where
  /-- The path. -/
  manifest : Option String
  /-- The limit. -/
  steps : Option UInt64
  /-- The input. -/
  input : Option String
  /-- Whether the first flag was given. -/
  trace : Bool
  /-- Whether the second flag was given. -/
  dump : Bool

namespace Draft

/-- No arguments. -/
def empty : Draft := ⟨none, none, none, false, false⟩

/-- The limit if none is given. -/
def defaultSteps : UInt64 := 10000

/-- The invocation that the arguments come to. -/
def finish (d : Draft) : Except UsageError Request :=
  match d.manifest with
  | some manifest =>
    .ok (.run ⟨manifest, d.steps.getD defaultSteps, d.input, d.trace, d.dump⟩)
  | none => .error .missingManifest

/-- Takes a path. -/
def putManifest (d : Draft) (path : String) : Except UsageError Draft :=
  if d.manifest.isSome then .error (.unexpectedArgument path)
  else if path.isEmpty then .error .emptyManifest
  else .ok { d with manifest := some path }

/-- Takes paths only. -/
def putManifests (d : Draft) (paths : List String) : Except UsageError Draft :=
  paths.foldlM putManifest d

/-- The limit that a text stands for, if 64 bits hold it. -/
def steps? (value : String) : Option UInt64 := do
  let n ← Text.decimal? value
  if n < UInt64.size then some n.toUInt64 else none

/-- The options with a value. -/
inductive ValueOption where
  | steps
  | input

/-- The word for an option with a value. -/
def ValueOption.word : ValueOption → String
  | steps => "steps"
  | input => "input"

/-- Takes the value of an option. -/
def putValue (d : Draft) (option : ValueOption) (value : String) : Except UsageError Draft :=
  match option with
  | .steps =>
    if d.steps.isSome then .error (.repeated "steps")
    else
      match steps? value with
      | some n => .ok { d with steps := some n }
      | none => .error (.invalidSteps value)
  | .input =>
    if d.input.isSome then .error (.repeated "input") else .ok { d with input := some value }

/-- Takes a flag. -/
def putTrace (d : Draft) : Except UsageError Draft :=
  if d.trace then .error (.repeated "trace") else .ok { d with trace := true }

/-- Takes a flag. -/
def putDump (d : Draft) : Except UsageError Draft :=
  if d.dump then .error (.repeated "dump") else .ok { d with dump := true }

/-- The kinds of argument. -/
inductive Argument where
  /-- A path. -/
  | path
  /-- The end of the options. -/
  | endOfOptions
  /-- An option with a value, and the value if it is part of the argument. -/
  | valued (option : ValueOption) (value : Option String)
  /-- The flag for the log. -/
  | trace
  /-- The flag for the last state. -/
  | dump
  /-- A flag with a value. -/
  | flagWithValue (name : String)
  /-- A request for help. -/
  | help
  /-- None of these. -/
  | unknown

/-- The kind of a long option with a name, and a value if it is part of the argument. -/
def longOption (name : String) (value : Option String) : Argument :=
  match name, value with
  | "steps", value => .valued .steps value
  | "input", value => .valued .input value
  | "trace", none => .trace
  | "dump", none => .dump
  | "help", none => .help
  | "trace", some _ | "dump", some _ | "help", some _ => .flagWithValue name
  | _, _ => .unknown

/-- The kind of an argument. A dash alone is a path. -/
def kindOf (argument : String) : Argument :=
  match argument.toList with
  | ['-', '-'] => .endOfOptions
  | '-' :: '-' :: rest =>
    let name := String.ofList (rest.takeWhile (· ≠ '='))
    match rest.dropWhile (· ≠ '=') with
    | _ :: value => longOption name (some (String.ofList value))
    | [] => longOption name none
  | '-' :: 'h' :: _ => .help
  | '-' :: _ :: _ => .unknown
  | _ => .path

/-- Whether an argument can be the value of the option before it. -/
def canBeValue (argument : String) : Bool :=
  match argument.toList with
  | '-' :: _ :: _ => false
  | _ => true

/-- Takes arguments one after another. -/
def read (d : Draft) : List String → Except UsageError Request
  | [] => d.finish
  | argument :: rest =>
    match kindOf argument with
    | .path => do (← d.putManifest argument).read rest
    | .endOfOptions => do (← d.putManifests rest).finish
    | .valued option (some value) => do (← d.putValue option value).read rest
    | .valued option none =>
      match rest with
      | value :: rest =>
        if canBeValue value then do (← d.putValue option value).read rest
        else .error (.missingValue option.word)
      | [] => .error (.missingValue option.word)
    | .trace => do (← d.putTrace).read rest
    | .dump => do (← d.putDump).read rest
    | .flagWithValue name => .error (.unexpectedValue name)
    | .help => .ok .help
    | .unknown => .error (.unknownOption argument)

end Draft

/-- What arguments ask for. -/
def Request.ofArguments (arguments : List String) : Except UsageError Request :=
  Draft.empty.read arguments

end PixelMachine.CommandLine
