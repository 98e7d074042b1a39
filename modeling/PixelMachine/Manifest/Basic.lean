import PixelMachine.Drive
import PixelMachine.FileError
import PixelMachine.Text.Blank

/-!
# Manifests

A manifest is a program in words: a legend gives each symbol its colour, and each row is a line of
symbols with blanks between them. A manifest is loaded from a file by a reader of documents, whatever that
accepts, and then checked (`Manifest.ofFile`). `Manifest.grid` paints the rows. A symbol that the legend does
not have is told before anything that is wrong with the shape of the rows.
-/

set_option autoImplicit false

namespace PixelMachine

/-- Why a manifest cannot be used. -/
inductive ManifestError where
  /-- The file cannot be read. -/
  | unreadable (error : FileError)
  /-- The text is no document, or the document is no manifest, with what its reader says about it. -/
  | malformed (reason : String)
  /-- The version of the format is another one. -/
  | invalidApiVersion (found : String)
  /-- The kind of the document is another one. -/
  | invalidKind (found : String)
  /-- A field that has to say something is empty. -/
  | missingField (field : String)
  /-- A symbol is not in the legend. -/
  | unknownSymbol (row column : Nat) (symbol : String)
  /-- The rows do not make up a grid. -/
  | grid (error : GridError)
  deriving DecidableEq

/-- The version of the format of manifests. -/
def Manifest.currentVersion : String := "palettette/v1"

/-- The kind of document that a manifest is. -/
def Manifest.programKind : String := "Program"

namespace ManifestError

/-- What is reported of a manifest that cannot be used. -/
def message : ManifestError → String
  | unreadable error => "failed to read manifest file: " ++ error.message
  | malformed reason => "failed to parse manifest YAML: " ++ reason
  | invalidApiVersion found =>
    s!"invalid apiVersion: expected '{Manifest.currentVersion}', got '{found}'"
  | invalidKind found => s!"invalid kind: expected '{Manifest.programKind}', got '{found}'"
  | missingField field => s!"missing required field: {field}"
  | unknownSymbol row column symbol =>
    s!"row {row}, column {column}: unknown legend symbol '{symbol}'"
  | grid error => s!"invalid grid: {error.message}"

/-- A manifest that cannot be used in full detail, with the case that it is. -/
def detail : ManifestError → String
  | unreadable error => Text.wrapped "IoError" (Text.quoted error.message)
  | malformed reason => Text.wrapped "YamlError" (Text.quoted reason)
  | invalidApiVersion found => Text.wrapped "InvalidApiVersion" (Text.quoted found)
  | invalidKind found => Text.wrapped "InvalidKind" (Text.quoted found)
  | missingField field => Text.wrapped "MissingField" (Text.quoted field)
  | unknownSymbol row column symbol =>
    Text.labelled "UnknownSymbol"
      [("row", toString row), ("column", toString column), ("symbol", Text.quoted symbol)]
  | grid error => Text.wrapped "Grid" error.detail

end ManifestError

/-- The colours of symbols, in the order in which the symbols were first given one. -/
structure Legend where
  /-- The symbols with their colours. -/
  entries : List (String × Pixel)
  nodup : (entries.map Prod.fst).Nodup
  deriving DecidableEq

namespace Legend

/-- No symbols. -/
def empty : Legend := ⟨[], List.nodup_nil⟩

/-- The symbols. -/
def symbols (l : Legend) : List String := l.entries.map Prod.fst

/-- The colour of a symbol, if it has one. -/
def colour? (l : Legend) (symbol : String) : Option Pixel := l.entries.lookup symbol

/-- The entries with a colour for a symbol: a known symbol keeps its place, a new one comes last. -/
def putEntry (symbol : String) (colour : Pixel) : List (String × Pixel) → List (String × Pixel)
  | [] => [(symbol, colour)]
  | (s, c) :: rest =>
    if s = symbol then (symbol, colour) :: rest else (s, c) :: putEntry symbol colour rest

/-- The symbols after one was given a colour. -/
theorem map_fst_putEntry (symbol : String) (colour : Pixel) (entries : List (String × Pixel)) :
    (putEntry symbol colour entries).map Prod.fst =
      if symbol ∈ entries.map Prod.fst then entries.map Prod.fst
      else entries.map Prod.fst ++ [symbol] := by
  induction entries with
  | nil => simp [putEntry]
  | cons e rest ih =>
    obtain ⟨s, c⟩ := e
    by_cases h : s = symbol
    · simp [putEntry, h]
    · by_cases hm : symbol ∈ rest.map Prod.fst
      · simp_all [putEntry]
      · have hne : symbol ≠ s := fun heq => h heq.symm
        simp_all [putEntry]

/-- Gives a symbol a colour, in place of the one that it has. -/
def insert (l : Legend) (symbol : String) (colour : Pixel) : Legend where
  entries := putEntry symbol colour l.entries
  nodup := by
    rw [map_fst_putEntry]
    split
    · exact l.nodup
    · next h =>
      rw [List.nodup_append]
      refine ⟨l.nodup, by simp, ?_⟩
      intro a ha b hb
      rw [List.mem_singleton] at hb
      subst hb
      exact fun heq => h (heq ▸ ha)

/-- The colour of a symbol after it was given one is that colour, and no other symbol changes. -/
theorem colour?_insert (l : Legend) (symbol s : String) (colour : Pixel) :
    (l.insert symbol colour).colour? s = if s = symbol then some colour else l.colour? s := by
  have h : ∀ entries : List (String × Pixel),
      (putEntry symbol colour entries).lookup s =
        if s = symbol then some colour else entries.lookup s := by
    intro entries
    induction entries with
    | nil =>
      by_cases hs : s = symbol
      · simp [putEntry, hs]
      · have hb : (s == symbol) = false := beq_eq_false_iff_ne.2 hs
        simp [putEntry, List.lookup_cons, hb, hs]
    | cons e rest ih =>
      obtain ⟨t, c⟩ := e
      by_cases ht : t = symbol
      · subst ht
        by_cases hs : s = t
        · simp [putEntry, hs]
        · have hb : (s == t) = false := beq_eq_false_iff_ne.2 hs
          simp [putEntry, List.lookup_cons, hb, hs]
      · by_cases hs : s = t
        · subst hs
          simp [putEntry, ht]
        · have hb : (s == t) = false := beq_eq_false_iff_ne.2 hs
          simp [putEntry, List.lookup_cons, ht, hb, ih]
  exact h l.entries

/-- The legend in which each symbol has the last of the colours that are given for it. -/
def ofList (entries : List (String × Pixel)) : Legend :=
  entries.foldl (fun l (symbol, colour) => l.insert symbol colour) empty

end Legend

/-- What is said about a program beside its pixels. -/
structure Metadata where
  /-- The name of the program. -/
  name : String
  /-- A title. -/
  title : Option String
  /-- A description. -/
  description : Option String
  deriving DecidableEq

/-- A program in words. -/
structure Manifest where
  /-- The version of the format. -/
  apiVersion : String
  /-- The kind of the document. -/
  kind : String
  /-- What is said about the program. -/
  metadata : Metadata
  /-- The colours of the symbols. -/
  legend : Legend
  /-- The rows, from top to bottom, as symbols with blanks between them. -/
  rows : Array String
  /-- The input of the program. -/
  input : String
  deriving DecidableEq

namespace Manifest

/-- A manifest with a name, and nothing else. -/
def new (name : String) : Manifest where
  apiVersion := currentVersion
  kind := programKind
  metadata := ⟨name, none, none⟩
  legend := .empty
  rows := #[]
  input := ""

/-- Gives a symbol a colour. -/
def withSymbol : Manifest → String → Pixel → Manifest
  | ⟨version, kind, metadata, legend, rows, input⟩, symbol, colour =>
    ⟨version, kind, metadata, legend.insert symbol colour, rows, input⟩

/-- Adds a row at the bottom. -/
def withRow : Manifest → String → Manifest
  | ⟨version, kind, metadata, legend, rows, input⟩, row =>
    ⟨version, kind, metadata, legend, rows.push row, input⟩

/-- Sets the input. -/
def withInput (m : Manifest) (input : String) : Manifest := { m with input := input }

/-- Checks what a manifest says about itself: the version first, then the kind, then that it has a name,
then that it has rows. -/
def check (m : Manifest) : Except ManifestError Unit :=
  if m.apiVersion ≠ currentVersion then .error (.invalidApiVersion m.apiVersion)
  else if m.kind ≠ programKind then .error (.invalidKind m.kind)
  else if m.metadata.name = "" then .error (.missingField "metadata.name")
  else if m.rows = #[] then .error (.missingField "rows")
  else .ok ()

/-- A reader of documents: the manifest that a YAML text is, before it is checked, or why it is none. -/
abbrev Reader : Type := String → Except String Manifest

/-- The manifest that a text is to a reader, checked. -/
def ofYaml (read : Reader) (text : String) : Except ManifestError Manifest := do
  let m ← (read text).mapError ManifestError.malformed
  m.check
  .ok m

/-- The manifest that the content of a file is to a reader, checked. -/
def ofFile (read : Reader) (content : Except FileError ByteArray) : Except ManifestError Manifest := do
  let bytes ← content.mapError ManifestError.unreadable
  match String.fromUTF8? bytes with
  | some text => ofYaml read text
  | none => .error (.unreadable .notUtf8)

/-- The colours of symbols that stand in a row from some column on. -/
def paintWords (legend : Legend) (row : Nat) :
    (column : Nat) → List String → Except ManifestError (List Pixel)
  | _, [] => .ok []
  | column, symbol :: rest =>
    match legend.colour? symbol with
    | some colour => (paintWords legend row (column + 1) rest).map (colour :: ·)
    | none => .error (.unknownSymbol row column symbol)

/-- The colours of rows, the first of which has a number. -/
def paintRows (legend : Legend) : (row : Nat) → List String → Except ManifestError (List (List Pixel))
  | _, [] => .ok []
  | row, line :: rest =>
    match paintWords legend row 0 (Text.words line) with
    | .ok pixels => (paintRows legend (row + 1) rest).map (pixels :: ·)
    | .error e => .error e

/-- The grid of a manifest. -/
def grid (m : Manifest) : Except ManifestError Grid :=
  match paintRows m.legend 0 m.rows.toList with
  | .ok rows => (Grid.ofRows rows).mapError .grid
  | .error e => .error e

/-- An idle machine for a manifest, with its input or with another one. -/
def machine (m : Manifest) (input : Option String) : Except ManifestError Machine :=
  m.grid.map fun g => .new g (.ofText (input.getD m.input))

end Manifest

end PixelMachine
