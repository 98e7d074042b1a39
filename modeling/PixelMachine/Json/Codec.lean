import PixelMachine.Json.Value

/-!
# Documents of values

A type with a codec has a document for each of its values, and reads documents back. Three rules hold
for all codecs of this library.

* A record is written as an object with one member for each field. It is read from an object, whose
  other members are ignored, or from a list of its fields in their order. In an object, an optional
  field may be missing.
* A case without content is written as its name. It is read from its name, or from an object with the
  name as its only key and null as its value.
* A case with content is written and read as an object with the name as its only key.
-/

set_option autoImplicit false

namespace PixelMachine.Json

/-- Types whose values have documents. -/
class Codec (α : Type) where
  /-- The document of a value. -/
  encode : α → Value
  /-- The value that a document stands for. -/
  decode : Value → Option α

export Codec (encode decode)

namespace Codec

/-! ## Records -/

/-- The fields of a record, looked up by their names in an object or taken in order from a list. A list
has to have the first `required` of them, and a field that it does not reach is missing. -/
def fields? (names : List String) (required : Nat) : Value → Option (List (Option Value))
  | .object members => some (names.map fun name => members.lookup name)
  | .list items =>
    if required ≤ items.length ∧ items.length ≤ names.length then
      some (items.map some ++ List.replicate (names.length - items.length) none)
    else none
  | _ => none

/-- The fields of a record none of which a list may leave out. -/
def allFields? (names : List String) : Value → Option (List (Option Value)) :=
  fields? names names.length

/-- A field that has to be there. -/
def needed {α : Type} [Codec α] (field : Option Value) : Option α := field.bind decode

/-- A field that has a value of its own when it is missing. -/
def orElse {α : Type} [Codec α] (missing : α) : Option Value → Option α
  | some v => decode v
  | none => some missing

/-! ## Cases -/

/-- The name of a case without content. -/
def unitCase? : Value → Option String
  | .string name => some name
  | .object [(name, .null)] => some name
  | _ => none

/-- The name and the content of a case with content. -/
def contentCase? : Value → Option (String × Value)
  | .object [(name, content)] => some (name, content)
  | _ => none

/-! ## Building blocks -/

instance : Codec UInt8 := ⟨Value.byte, Value.byte?⟩

instance : Codec Int8 := ⟨fun n => .int n.toInt, Value.signedByte?⟩

/-- A 64-bit word; a natural number that is none has a document that is not read back. -/
instance : Codec Nat := ⟨Value.nat, Value.word?⟩

instance : Codec String := ⟨.string, Value.string?⟩

instance {α : Type} [Codec α] : Codec (List α) :=
  ⟨fun items => .list (items.map encode), fun v => do (← v.list?).mapM decode⟩

instance {α : Type} [Codec α] : Codec (Option α) where
  encode
    | some a => encode a
    | none => .null
  decode
    | .null => some none
    | v => (decode v).map some

/-- An optional field, which an object may leave out. -/
def maybe {α : Type} [Codec α] : Option Value → Option (Option α) := orElse none

end Codec

end PixelMachine.Json
