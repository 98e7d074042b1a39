import PixelMachine.Manifest.Basic
import PixelMachine.Text.Hexadecimal
import PixelMachine.Yaml.Node

/-!
# Reading manifests

A reader of manifests in YAML, for documents without anchors, aliases, tags and directives. A text field takes
any scalar as it is written; a list or a mapping that is left out is empty; a channel is a plain number. A
field of the manifest may not be given twice, and fields that a manifest does not have are passed over.
-/

set_option autoImplicit false

namespace PixelMachine

open Yaml (Node)

/-! ## Numbers -/

/-- The value of a digit in a base up to 16. -/
def digitIn? (base : Nat) (c : Char) : Option Nat := do
  let d ← Text.hexDigit? c
  if d < base then some d else none

/-- The number that some digits, at least one, stand for in a base. -/
def numberIn? (base : Nat) (digits : List Char) : Option Nat :=
  if digits.isEmpty then none
  else digits.foldlM (fun n c => (digitIn? base c).map (n * base + ·)) 0

/-- The number that a plain scalar stands for. It is decimal and does not start with a zero, unless it
is zero; or hexadecimal, octal or binary after `0x`, `0o` or `0b`. A plus may precede it. -/
def plainNumber? (text : List Char) : Option Nat :=
  let unsigned := match text with
    | '+' :: rest => rest
    | rest => rest
  match unsigned with
  | '0' :: 'x' :: digits => numberIn? 16 digits
  | '0' :: 'o' :: digits => numberIn? 8 digits
  | '0' :: 'b' :: digits => numberIn? 2 digits
  | ['0'] => some 0
  | '0' :: _ => none
  | digits => numberIn? 10 digits

namespace Manifest.Load

/-! ## Values of fields -/

/-- The text of a scalar. -/
def text? : Node → Option String
  | .scalar text _ => some text
  | _ => none

/-- Whether a plain scalar stands for nothing. -/
def isNull (text : String) : Bool :=
  ["", "~", "null", "Null", "NULL"].elem text

/-- A text that may be absent. -/
def optionalText? : Node → Option (Option String)
  | .scalar text .plain => some (if isNull text then none else some text)
  | .scalar text .marked => some (some text)
  | _ => none

/-- The byte that a scalar stands for. -/
def channel? : Node → Option UInt8
  | .scalar text .plain => do
    let n ← plainNumber? text.toList
    if n < 256 then some n.toUInt8 else none
  | _ => none

/-- The items of a list, which has none if it is left out. -/
def items? : Node → Option (List Node)
  | .sequence items => some items
  | .scalar "" .plain => some []
  | _ => none

/-- The entries of a mapping, which has none if it is left out. -/
def entries? : Node → Option (List (Node × Node))
  | .mapping entries => some entries
  | .scalar "" .plain => some []
  | _ => none

/-- A colour is a list of three channels. -/
def colour? (node : Node) : Option Pixel := do
  match ← items? node with
  | [r, g, b] => some ⟨← channel? r, ← channel? g, ← channel? b⟩
  | _ => none

/-- The symbols of a legend with their colours. -/
def legend? (node : Node) : Option Legend := do
  let entries ← (← entries? node).mapM fun (key, value) => do
    let symbol ← text? key
    let colour ← colour? value
    some (symbol, colour)
  some (.ofList entries)

/-- The rows of a manifest. -/
def rows? (node : Node) : Option (Array String) := do
  let rows ← (← items? node).mapM text?
  some rows.toArray

/-! ## Records -/

/-- The entries of a record by name. All keys are texts, and none of the names is there twice. -/
def fields? (names : List String) (node : Node) : Option (List (String × Node)) := do
  let entries ← (← entries? node).mapM fun (key, value) => (text? key).map (·, value)
  if names.all fun name => (entries.filter (·.1 == name)).length ≤ 1 then some entries else none

/-- A field that has a value of its own when it is missing. -/
def field? {α : Type} (fields : List (String × Node)) (name : String) (missing : α)
    (read : Node → Option α) : Option α :=
  match fields.lookup name with
  | some node => read node
  | none => some missing

/-- What a document says about the program. The name has to be there. -/
def metadata? (node : Node) : Option Metadata := do
  let fields ← fields? ["name", "title", "description"] node
  some
    { name := ← (fields.lookup "name").bind text?
      title := ← field? fields "title" none optionalText?
      description := ← field? fields "description" none optionalText? }

/-- The manifest that a document is. -/
def manifest? (node : Node) : Option Manifest := do
  let fields ← fields? ["apiVersion", "kind", "metadata", "legend", "rows", "input"] node
  some
    { apiVersion := ← field? fields "apiVersion" currentVersion text?
      kind := ← field? fields "kind" programKind text?
      metadata := ← field? fields "metadata" ⟨"", none, none⟩ metadata?
      legend := ← field? fields "legend" .empty legend?
      rows := ← field? fields "rows" #[] rows?
      input := ← field? fields "input" "" text? }

end Manifest.Load

/-- Reads a manifest from a YAML document, unchecked. A text without a document is a manifest without
fields. -/
def Manifest.readYaml : Manifest.Reader := fun text => do
  let node ← (Node.ofText? text).mapError Yaml.Error.message
  match Manifest.Load.manifest? (node.getD .missing) with
  | some m => .ok m
  | none => .error "the document is not a manifest"

end PixelMachine
