import PixelMachine.CommandLine.Services
import PixelMachine.Json.Printer
import PixelMachine.Log.Filter
import PixelMachine.Manifest.Load

/-!
# Built-in services

The services that the command is built with are the ones of this library.
-/

set_option autoImplicit false

namespace PixelMachine.CommandLine

/-- Whether a filter that is written as a text shows an entry. -/
def shown? (text : String) : Option (Log.Heading → Bool) :=
  (Log.Filter.ofText? text).map fun f => f.sections.passes

/-- The services of this library. -/
def Services.builtin : Services where
  readManifest := Manifest.readYaml
  filter? := shown?
  filter text := (shown? text).getD fun _ => false
  writeJson v := .ok v.pretty

end PixelMachine.CommandLine
