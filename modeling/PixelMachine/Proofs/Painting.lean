import PixelMachine.Manifest.Basic
import PixelMachine.Proofs.Construction
import PixelMachine.Proofs.Spelling
import Mathlib.Data.List.Forall2
import Mathlib.Data.Prod.Lex
import Mathlib.Order.Bounds.Basic

/-!
# Manifests and the grids that they paint

The rows of a manifest spell a table of symbols. If the legend has all of them it paints the table
(`Legend.Paints`), and the painted rows are as ragged or as even as the table is; if not, the first that
it does not have is told, where first means in the order in which one reads (`Legend.paintRows_cases`). So
the errors of a manifest have a fixed order, and `Manifest.grid_firstError` says which one it is.

On the other hand every grid can be painted. A manifest is written by edits (`Manifest.editAll`), and
`Manifest.grid_editAll` allows any of them that leave the symbols their colours and the rows their order.
-/

set_option autoImplicit false

namespace PixelMachine

namespace Legend

variable {legend : Legend} {symbols : List String} {table : List (List String)}
  {rows : List (List Pixel)}

/-! ## Symbols that a legend does not have -/

/-- The columns of the symbols in a row that the legend does not have. -/
def unknownColumns (legend : Legend) (symbols : List String) : Set ℕ :=
  {column | ∃ symbol, symbols[column]? = some symbol ∧ legend.colour? symbol = none}

/-- The places in a table, row before column, of the symbols that the legend does not have. -/
def unknownPlaces (legend : Legend) (table : List (List String)) : Set (ℕ ×ₗ ℕ) :=
  {place | ∃ symbols, table[(ofLex place).1]? = some symbols ∧
    (ofLex place).2 ∈ legend.unknownColumns symbols}

/-- One row further down, places come in the same order. -/
theorem toLex_succ_le_toLex_succ {row column row' column' : ℕ} :
    toLex (row + 1, column) ≤ toLex (row' + 1, column') ↔
      toLex (row, column) ≤ toLex (row', column') := by
  simp only [Prod.Lex.toLex_le_toLex]
  omega

/-- A row is painted, or the first symbol in it that the legend does not have is told. -/
theorem paintWords_cases (legend : Legend) (row start : ℕ) (symbols : List String) :
    (∃ pixels, Manifest.paintWords legend row start symbols = .ok pixels ∧
      symbols.map legend.colour? = pixels.map some) ∨
    ∃ column symbol, IsLeast (legend.unknownColumns symbols) column ∧
      symbols[column]? = some symbol ∧
      Manifest.paintWords legend row start symbols =
        .error (.unknownSymbol row (start + column) symbol) := by
  induction symbols generalizing start with
  | nil => exact .inl ⟨[], rfl, rfl⟩
  | cons symbol rest ih =>
    cases hcolour : legend.colour? symbol with
    | none =>
      refine .inr ⟨0, symbol, ⟨⟨symbol, rfl, hcolour⟩, fun _ _ => Nat.zero_le _⟩, rfl, ?_⟩
      simp only [Manifest.paintWords, hcolour, Nat.add_zero]
    | some colour =>
      rcases ih (start + 1) with ⟨pixels, hok, hpixels⟩ | ⟨column, s, ⟨hmem, hmin⟩, hs, herror⟩
      · refine .inl ⟨colour :: pixels, ?_, ?_⟩
        · simp only [Manifest.paintWords, hcolour, hok]
          rfl
        · rw [List.map_cons, List.map_cons, hcolour, hpixels]
      · refine .inr ⟨column + 1, s, ⟨hmem, ?_⟩, hs, ?_⟩
        · rintro (_ | other) ⟨t, ht, hunknown⟩
          · cases ht
            rw [hcolour] at hunknown
            cases hunknown
          · exact Nat.succ_le_succ (hmin ⟨t, ht, hunknown⟩)
        · simp only [Manifest.paintWords, hcolour, herror, Nat.add_right_comm start 1 column]
          rfl

/-! ## Painted tables -/

/-- The rows are the table in the colours of the legend. -/
def Paints (legend : Legend) (table : List (List String)) (rows : List (List Pixel)) : Prop :=
  table.map (List.map legend.colour?) = rows.map (List.map some)

/-- A row is painted on top of a painted table. -/
theorem Paints.cons {pixels : List Pixel} (hpixels : symbols.map legend.colour? = pixels.map some)
    (h : legend.Paints table rows) : legend.Paints (symbols :: table) (pixels :: rows) := by
  rw [Paints, List.map_cons, List.map_cons, hpixels, h]

/-- Where a symbol stands in the table stands its colour in the rows. -/
theorem Paints.pixel?_eq (h : legend.Paints table rows) (row column : ℕ) :
    (table[row]?.bind fun symbols => symbols[column]?).map legend.colour? =
      (rows[row]?.bind fun pixels => pixels[column]?).map some := by
  have hentry := congrArg (fun t => t[row]?.bind fun colours => colours[column]?) h
  simpa [Option.bind_map, Option.map_bind, Function.comp_def] using hentry

/-- A row that has its colours has no unknown symbol. -/
theorem not_mem_unknownColumns {pixels : List Pixel}
    (hpixels : symbols.map legend.colour? = pixels.map some) (column : ℕ) :
    column ∉ legend.unknownColumns symbols := by
  rintro ⟨symbol, hsymbol, hunknown⟩
  have hmem : none ∈ symbols.map legend.colour? :=
    List.mem_map.2 ⟨symbol, List.mem_of_getElem? hsymbol, hunknown⟩
  rw [hpixels] at hmem
  simp at hmem

/-- A row of a painted table has its colours. -/
theorem Paints.exists_row {row : ℕ} (h : legend.Paints table rows)
    (hsymbols : table[row]? = some symbols) :
    ∃ pixels, rows[row]? = some pixels ∧ symbols.map legend.colour? = pixels.map some := by
  have hrow := congrArg (fun t => t[row]?) h
  simp only [List.getElem?_map, hsymbols, Option.map_some] at hrow
  obtain ⟨pixels, hpixels, hcolours⟩ := Option.map_eq_some_iff.1 hrow.symm
  exact ⟨pixels, hpixels, hcolours.symm⟩

/-- The legend has all symbols of what it paints. -/
theorem Paints.unknownPlaces_eq_empty (h : legend.Paints table rows) :
    legend.unknownPlaces table = ∅ := by
  rw [Set.eq_empty_iff_forall_notMem]
  rintro place ⟨symbols, hsymbols, hunknown⟩
  obtain ⟨pixels, -, hcolours⟩ := h.exists_row hsymbols
  exact not_mem_unknownColumns hcolours _ hunknown

/-- A table is painted in one way only. -/
theorem Paints.unique {rows' : List (List Pixel)} (h : legend.Paints table rows)
    (h' : legend.Paints table rows') : rows = rows' := by
  have hinjective : Function.Injective (List.map (List.map (some : Pixel → Option Pixel))) :=
    List.map_injective_iff.2 (List.map_injective_iff.2 (Option.some_injective Pixel))
  exact hinjective (h.symm.trans h')

/-- Rows are painted, or the first symbol in them that the legend does not have is told. -/
theorem paintRows_cases (legend : Legend) (start : ℕ) (lines : List String) :
    (∃ rows, Manifest.paintRows legend start lines = .ok rows ∧
      legend.Paints (lines.map Text.words) rows) ∨
    ∃ row column symbols symbol,
      IsLeast (legend.unknownPlaces (lines.map Text.words)) (toLex (row, column)) ∧
      (lines.map Text.words)[row]? = some symbols ∧ symbols[column]? = some symbol ∧
      Manifest.paintRows legend start lines =
        .error (.unknownSymbol (start + row) column symbol) := by
  induction lines generalizing start with
  | nil => exact .inl ⟨[], rfl, rfl⟩
  | cons line rest ih =>
    rcases paintWords_cases legend start 0 (Text.words line) with
      ⟨pixels, hok, hpixels⟩ | ⟨column, symbol, ⟨hmem, hmin⟩, hsymbol, herror⟩
    · rcases ih (start + 1) with ⟨rows, hrows, hpaints⟩ |
        ⟨row, column, symbols, symbol, ⟨hmem, hmin⟩, hsymbols, hsymbol, herror⟩
      · refine .inl ⟨pixels :: rows, ?_, hpaints.cons hpixels⟩
        simp only [Manifest.paintRows, hok, hrows]
        rfl
      · refine .inr ⟨row + 1, column, symbols, symbol, ⟨hmem, ?_⟩, hsymbols, hsymbol, ?_⟩
        · rintro ⟨_ | other, column'⟩ ⟨symbols', hsymbols', hunknown⟩
          · cases hsymbols'
            exact absurd hunknown (not_mem_unknownColumns hpixels column')
          · have hle : toLex (row, column) ≤ toLex (other, column') :=
              hmin ⟨symbols', hsymbols', hunknown⟩
            exact toLex_succ_le_toLex_succ.2 hle
        · simp only [Manifest.paintRows, hok, herror, Nat.add_right_comm start 1 row]
          rfl
    · refine .inr ⟨0, column, Text.words line, symbol, ⟨⟨_, rfl, hmem⟩, ?_⟩, rfl, hsymbol, ?_⟩
      · rintro ⟨_ | other, column'⟩ ⟨symbols', hsymbols', hunknown⟩
        · cases hsymbols'
          exact Prod.Lex.toLex_le_toLex.2 (.inr ⟨rfl, hmin hunknown⟩)
        · exact Prod.Lex.toLex_le_toLex.2 (.inl (Nat.succ_pos other))
      · simp only [Manifest.paintRows, herror, Nat.zero_add, Nat.add_zero]

end Legend

/-! ## The grid of a manifest -/

namespace Manifest

variable {m : Manifest}

/-- The symbols that the rows of a manifest spell. -/
def table (m : Manifest) : List (List String) := m.rows.toList.map Text.words

section Paints

variable {rows : List (List Pixel)}

/-- The grid of a manifest that the legend paints is built from the painted rows. -/
theorem grid_of_paints (h : m.legend.Paints m.table rows) :
    m.grid = (Grid.ofRows rows).mapError .grid := by
  rcases m.legend.paintRows_cases 0 m.rows.toList with
    ⟨rows', hok, hpaints⟩ | ⟨row, column, symbols, symbol, hleast, -⟩
  · rw [grid, hok, hpaints.unique h]
  · have hempty : m.legend.unknownPlaces (m.rows.toList.map Text.words) = ∅ := h.unknownPlaces_eq_empty
    rw [hempty] at hleast
    exact absurd hleast.1 (Set.notMem_empty _)

end Paints

/-- What is written into a manifest. -/
inductive Edit where
  /-- A symbol is given a colour. -/
  | symbol (symbol : String) (colour : Pixel)
  /-- A row is added at the bottom. -/
  | row (line : String)
  /-- The input is set. -/
  | input (text : String)

namespace Edit

/-- The row that is added. -/
def line? : Edit → Option String
  | row line => some line
  | _ => none

/-- The colour that a symbol is given. -/
def colourOf? (symbol : String) : Edit → Option Pixel
  | .symbol s colour => if symbol = s then some colour else none
  | _ => none

/-- The input that is set. -/
def text? : Edit → Option String
  | input text => some text
  | _ => none

end Edit

/-- The manifest with something written into it. -/
def edit (m : Manifest) : Edit → Manifest
  | .symbol symbol colour => m.withSymbol symbol colour
  | .row line => m.withRow line
  | .input text => m.withInput text

/-- The manifest with things written into it, one after another. -/
def editAll (m : Manifest) (edits : List Edit) : Manifest := edits.foldl edit m

/-- The lines are those that there were, and then those that were added. -/
theorem rows_editAll (m : Manifest) (edits : List Edit) :
    (m.editAll edits).rows.toList = m.rows.toList ++ edits.filterMap Edit.line? := by
  induction edits generalizing m with
  | nil => simp [editAll]
  | cons e edits ih =>
    rw [editAll, List.foldl_cons, ← editAll, ih]
    cases e <;> simp [edit, withSymbol, withRow, withInput, Edit.line?, List.filterMap_cons]

/-- The input is the text that was given last, if one was. -/
theorem input_editAll (m : Manifest) (edits : List Edit) :
    (m.editAll edits).input = (edits.filterMap Edit.text?).getLast?.getD m.input := by
  induction edits generalizing m with
  | nil => simp [editAll]
  | cons e edits ih =>
    rw [editAll, List.foldl_cons, ← editAll, ih]
    cases e <;> simp [edit, withSymbol, withRow, withInput, Edit.text?, List.getLast?_cons]

/-- Of the colours that a symbol is given, the last one is its colour. -/
theorem colour?_editAll (m : Manifest) (edits : List Edit) (symbol : String) :
    (m.editAll edits).legend.colour? symbol =
      (edits.filterMap (Edit.colourOf? symbol)).getLast?.or (m.legend.colour? symbol) := by
  induction edits generalizing m with
  | nil => simp [editAll]
  | cons e edits ih =>
    rw [editAll, List.foldl_cons, ← editAll, ih]
    cases e with
    | symbol s colour =>
      by_cases hs : symbol = s
      · simp [edit, withSymbol, Edit.colourOf?, Legend.colour?_insert, hs, List.getLast?_cons]
      · simp [edit, withSymbol, Edit.colourOf?, Legend.colour?_insert, hs]
    | row line => simp [edit, withRow, Edit.colourOf?]
    | input text => simp [edit, withInput, Edit.colourOf?]

/-- What symbols spell is painted, if the legend gives each of them its colour. -/
theorem paints_of_spells {symbol : Pixel → String} {rows : List (List Pixel)}
    (hrows : List.Forall₂
      (fun line pixels => Text.Spells line.toList (pixels.map fun p => (symbol p).toList))
      m.rows.toList rows)
    (hcolours : ∀ pixels ∈ rows, ∀ p ∈ pixels, m.legend.colour? (symbol p) = some p) :
    m.legend.Paints m.table rows := by
  have htable : m.table = rows.map (List.map symbol) := by
    rw [table, ← List.forall₂_eq_eq_eq, List.forall₂_map_left_iff, List.forall₂_map_right_iff]
    refine hrows.imp fun line pixels hspells => Text.words_eq_iff.2 ?_
    rwa [List.map_map]
  rw [Legend.Paints, htable, List.map_map]
  refine List.map_congr_left fun pixels hpixels => ?_
  rw [Function.comp_apply, List.map_map]
  exact List.map_congr_left fun p hp => hcolours pixels hpixels p hp

/-- Every grid has manifests. A manifest is written by giving colours to symbols, adding rows and setting
the input, in any order. If its rows, one after another, spell the rows of the grid in symbols, with any
blanks, and each of these symbols is given its colour last, whatever colours it and other symbols are given
before, then the manifest has this grid, and a machine for it starts with the text that the input was set
to last. Two colours of the grid never share a symbol here, since its last colour is only one. -/
theorem grid_editAll (g : Grid) (symbol : Pixel → String) (name : String) (edits : List Edit)
    (hrows : List.Forall₂
      (fun line pixels => Text.Spells line.toList (pixels.map fun p => (symbol p).toList))
      (edits.filterMap Edit.line?) g.rows)
    (hcolours : ∀ p ∈ g.cells, (edits.filterMap (Edit.colourOf? (symbol p))).getLast? = some p) :
    let m := (new name).editAll edits
    m.grid = .ok g ∧
      m.machine none =
        .ok (.new g (.ofText ((edits.filterMap Edit.text?).getLast?.getD ""))) := by
  intro m
  have hcells : g.cells.toList = g.rows.flatten := by
    obtain ⟨-, -, hcells⟩ := Grid.ofCells_eq_ok_iff.1 g.ofCells_rows
    rw [hcells]
  have hlines : m.rows.toList = edits.filterMap Edit.line? := rows_editAll (new name) edits
  have hpaints : m.legend.Paints m.table g.rows := by
    refine paints_of_spells (hlines ▸ hrows) fun pixels hpixels p hp => ?_
    have hmem : p ∈ g.cells := by
      rw [← Array.mem_toList_iff, hcells]
      exact List.mem_flatten.2 ⟨pixels, hpixels, hp⟩
    have hcolour := colour?_editAll (new name) edits (symbol p)
    rwa [hcolours p hmem, Option.some_or] at hcolour
  have hgrid : m.grid = .ok g := by rw [grid_of_paints hpaints, g.ofRows_rows]; rfl
  have hinput : m.input = _ := input_editAll (new name) edits
  refine ⟨hgrid, ?_⟩
  rw [machine, hgrid, Option.getD_none, hinput]
  rfl

/-- Two symbols, one of which has another colour at first, and a row with blanks of several kinds. -/
def flag : List Edit :=
  [.symbol "night" ⟨9, 9, 9⟩, .input "one", .row "\t day\u2003 night \n", .symbol "day" ⟨0, 1, 2⟩,
    .symbol "dusk" ⟨3, 3, 3⟩, .symbol "night" ⟨3, 4, 5⟩, .input "two"]

/-- The flag shows day and night in the colours that they were given last, and reads the second input. -/
theorem grid_editAll_flag :
    let g : Grid := ⟨2, 1, #[⟨0, 1, 2⟩, ⟨3, 4, 5⟩], by decide, by decide, rfl, by decide⟩
    let m := (new "flag").editAll flag
    m.grid = .ok g ∧ m.machine none = .ok (.new g (.ofText "two")) := by
  intro g m
  let symbol : Pixel → String := fun p => if p.red = 0 then "day" else "night"
  have hwords : Text.words "\t day\u2003 night \n" = ["day", "night"] := by decide +kernel
  have hrows : List.Forall₂
      (fun line pixels => Text.Spells line.toList (pixels.map fun p => (symbol p).toList))
      (flag.filterMap Edit.line?) g.rows :=
    .cons (Text.words_eq_iff.1 hwords) .nil
  exact grid_editAll g symbol "flag" flag hrows (by decide +kernel)

end Manifest

end PixelMachine
