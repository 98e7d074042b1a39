import PixelMachine.CommandLine.Answer
import PixelMachine.CommandLine.Builtin

/-!
# The command

Reads the file that the arguments name, and prints what the answer says.
-/

set_option autoImplicit false

namespace PixelMachine.CommandLine

/-- Why the system did not read a file. The number of an error may be given with either sign. -/
def fileError : IO.Error → FileError
  | .noFileOrDirectory _ _ _ => .notFound
  | .permissionDenied _ _ _ => .forbidden
  | .inappropriateType _ code details =>
    if code = 21 || -code = 21 then .isDirectory
    else if code = 20 || -code = 20 then .notDirectory
    else .other details
  | e@(.invalidArgument _ code _) =>
    if code = 36 || -code = 36 then .nameTooLong else .other (toString e)
  | e => .other (toString e)

/-- The bytes of a file. -/
def readFile (path : String) : IO (Except FileError ByteArray) := do
  try
    return .ok (← IO.FS.readBinFile path)
  catch e =>
    return .error (fileError e)

/-- Carries out an invocation, and gives its exit code. If there is no outcome, this does not come to an
end. -/
def perform (i : Invocation) : IO Nat := do
  let some outcome := i.outcome .builtin (← readFile i.manifest) (← IO.getEnv "RUST_LOG") | return 1
  for line in outcome.log do
    IO.eprintln line
  IO.print outcome.stdout
  return outcome.exitCode

end PixelMachine.CommandLine

open PixelMachine.CommandLine in
/-- Runs the command with the arguments of the process. -/
def main (arguments : List String) : IO UInt32 := do
  match Request.ofArguments arguments with
  | .ok (.run i) => return (← perform i).toUInt32
  | .ok .help =>
    IO.print helpText
    return 0
  | .error e =>
    IO.eprintln ("error: " ++ e.message)
    return usageExitCode.toUInt32
