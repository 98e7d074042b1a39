import PixelMachine.Json.Machine
import PixelMachine.Manifest.Basic

/-!
# Documents of manifests

The codec of manifests. Every field of a manifest may be left out, and so may the title and the
description of its metadata; in a list of fields, only at the end. Nothing is checked beyond the kinds
of the fields.
-/

set_option autoImplicit false

namespace PixelMachine.Json

open Codec

/-- A legend is an object with the symbols as keys and the colours as values. -/
instance : Codec Legend where
  encode l := .object (l.entries.map fun (entry : String × Pixel) => (entry.1, encode entry.2))
  decode
    | .object members =>
      (members.mapM fun (member : String × Value) =>
        (decode member.2).map (Prod.mk member.1)).map Legend.ofList
    | _ => none

instance : Codec Metadata where
  encode m :=
    .object [("name", encode m.name), ("title", encode m.title),
      ("description", encode m.description)]
  decode v := do
    match ← fields? ["name", "title", "description"] 1 v with
    | [name, title, description] =>
      some ⟨← needed name, ← maybe title, ← maybe description⟩
    | _ => none

instance : Codec Manifest where
  encode m :=
    .object [("apiVersion", encode m.apiVersion), ("kind", encode m.kind),
      ("metadata", encode m.metadata), ("legend", encode m.legend), ("rows", encode m.rows.toList),
      ("input", encode m.input)]
  decode v := do
    match ← fields? ["apiVersion", "kind", "metadata", "legend", "rows", "input"] 0 v with
    | [apiVersion, kind, metadata, legend, rows, input] =>
      some ⟨← orElse Manifest.currentVersion apiVersion, ← orElse Manifest.programKind kind,
        ← orElse ⟨"", none, none⟩ metadata, ← orElse .empty legend,
        (← orElse ([] : List String) rows).toArray, ← orElse "" input⟩
    | _ => none

end PixelMachine.Json
