import PixelMachine.Json.Value
import PixelMachine.Log.Record
import PixelMachine.Manifest.Basic

/-!
# Services of the command

What the command has done for it by libraries: reading YAML, deciding which entries of the log are shown, and
writing JSON. The command works with any services of these kinds.
-/

set_option autoImplicit false

namespace PixelMachine.CommandLine

/-- The libraries that the command works with. -/
structure Services where
  /-- Reads a manifest from a YAML document. -/
  readManifest : Manifest.Reader
  /-- The filter of the log that a text from the environment stands for, if it stands for one: which entries
  are shown. -/
  filter? : String → Option (Log.Heading → Bool)
  /-- The filter of the log that a text of the command's own stands for. -/
  filter : String → Log.Heading → Bool
  /-- Writes a document as JSON text over several lines, or tells why it cannot. -/
  writeJson : Json.Value → Except String String

end PixelMachine.CommandLine
