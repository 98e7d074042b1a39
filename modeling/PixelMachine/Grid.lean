import PixelMachine.Location
import PixelMachine.Pixel
import PixelMachine.Text.Quoted

/-!
# Grids

A grid holds the pixels of a program, row after row. It is never empty, it is a full rectangle, and
its cells can be counted by a 64-bit word; the type carries all three facts, so a grid that exists
is a grid that a constructor has accepted.

A grid is a torus: whoever leaves it on one side comes back on the other, so a location that is
reached by an advance is always on the grid (`Grid.contains_offset`).
-/

set_option autoImplicit false

namespace PixelMachine

/-- Why pixels do not make up a grid. -/
inductive GridError where
  /-- A dimension is zero. -/
  | emptyDimensions (width height : Nat)
  /-- The cells are too many for a 64-bit count. -/
  | tooLarge (width height : Nat)
  /-- The pixels are not as many as the dimensions ask for. -/
  | cellCountMismatch (expected found : Nat)
  /-- A row is not as long as the first one. -/
  | raggedRow (row expected found : Nat)
  deriving DecidableEq

namespace GridError

/-- What is reported of a refused grid. -/
def message : GridError → String
  | emptyDimensions w h => s!"grid dimensions must be non-zero, got {w}x{h}"
  | tooLarge w h => s!"grid of {w}x{h} cells is too large to address"
  | cellCountMismatch expected found => s!"expected {expected} cells for the grid, got {found}"
  | raggedRow row expected found => s!"row {row} has {found} cells, expected {expected}"

/-- A refused grid in full detail, with the case that it is. -/
def detail : GridError → String
  | emptyDimensions w h =>
    Text.labelled "EmptyDimensions" [("width", toString w), ("height", toString h)]
  | tooLarge w h => Text.labelled "TooLarge" [("width", toString w), ("height", toString h)]
  | cellCountMismatch expected found =>
    Text.labelled "CellCountMismatch" [("expected", toString expected), ("found", toString found)]
  | raggedRow row expected found =>
    Text.labelled "RaggedRow"
      [("row", toString row), ("expected", toString expected), ("found", toString found)]

end GridError

/-- The pixels of a program: a full rectangle, not empty, row after row. -/
@[ext] structure Grid where
  /-- The number of columns. -/
  width : Nat
  /-- The number of rows. -/
  height : Nat
  /-- The pixels, row after row. -/
  cells : Array Pixel
  width_pos : 0 < width
  height_pos : 0 < height
  size_eq : cells.size = width * height
  size_lt : width * height < UInt64.size
  deriving DecidableEq

namespace Grid

/-! ## Construction -/

/-- The number of cells of a grid with these dimensions, if a 64-bit word can count them. -/
def cellCount (width height : Nat) : Except GridError Nat :=
  if width * height < UInt64.size then .ok (width * height) else .error (.tooLarge width height)

/-- The grid with these dimensions and these pixels, row after row. A zero dimension is told before
a product that is too large, and that before a wrong number of pixels. -/
def ofCells (width height : Nat) (cells : Array Pixel) : Except GridError Grid :=
  if hpos : 0 < width ∧ 0 < height then
    if hlt : width * height < UInt64.size then
      if hsize : cells.size = width * height then
        .ok ⟨width, height, cells, hpos.1, hpos.2, hsize, hlt⟩
      else .error (.cellCountMismatch (width * height) cells.size)
    else .error (.tooLarge width height)
  else .error (.emptyDimensions width height)

/-- The pixels of a buffer of four bytes each; the fourth byte, the opacity, is dropped, and so is
what is left at the end when it is less than a pixel. -/
def rgbaPixels : List UInt8 → List Pixel
  | r :: g :: b :: _ :: rest => ⟨r, g, b⟩ :: rgbaPixels rest
  | _ => []

/-- The grid with these dimensions and the pixels of a buffer of four bytes each. A buffer that ends
inside a pixel is refused before the dimensions are looked at, unless they are too large. -/
def ofRgba (width height : Nat) (bytes : List UInt8) : Except GridError Grid :=
  if bytes.length % 4 = 0 then
    ofCells width height (rgbaPixels bytes).toArray
  else do
    let expected ← cellCount width height
    .error (.cellCountMismatch expected (bytes.length / 4))

/-- The first row, counted from `row`, that is not `width` long, with its length. -/
def firstRagged? (width : Nat) : List (List Pixel) → Nat → Option (Nat × Nat)
  | [], _ => none
  | pixels :: rest, row =>
    if pixels.length = width then firstRagged? width rest (row + 1)
    else some (row, pixels.length)

/-- The grid with these rows. All of them have to be as long as the first. -/
def ofRows (rows : List (List Pixel)) : Except GridError Grid := do
  let height := rows.length
  let width := (rows.head?.map List.length).getD 0
  let _ ← cellCount width height
  match firstRagged? width rows 0 with
  | some (row, found) => .error (.raggedRow row width found)
  | none => ofCells width height rows.flatten.toArray

/-! ## Cells -/

/-- A location is on the grid if its column and its row are. -/
def Contains (g : Grid) (l : Location) : Prop :=
  l.x < g.width ∧ l.y < g.height

instance (g : Grid) (l : Location) : Decidable (g.Contains l) :=
  inferInstanceAs (Decidable (_ ∧ _))

/-- The place of a location among the cells, row after row. -/
def index (g : Grid) (l : Location) : Nat :=
  l.y * g.width + l.x

/-- A location on the grid has a cell. -/
theorem index_lt_size {g : Grid} {l : Location} (h : g.Contains l) : g.index l < g.cells.size := by
  have hrow : (l.y + 1) * g.width ≤ g.height * g.width := Nat.mul_le_mul_right _ h.2
  have hcol := h.1
  rw [g.size_eq, Nat.mul_comm g.width g.height, index]
  rw [Nat.succ_mul] at hrow
  omega

/-- The pixel at a location of the grid. -/
def get (g : Grid) (l : Location) (h : g.Contains l) : Pixel :=
  have := index_lt_size h
  g.cells[g.index l]

/-- The pixel at a location, found by its place among the cells. A column past the end of its row
runs on into the next row; there is no pixel past the last cell. -/
def get? (g : Grid) (l : Location) : Option Pixel :=
  g.cells[g.index l]?

/-- On the grid, there is a pixel at every location. -/
theorem get?_eq_some_get {g : Grid} {l : Location} (h : g.Contains l) :
    g.get? l = some (g.get l h) :=
  Array.getElem?_eq_getElem (index_lt_size h)

/-! ## Travel on the torus -/

/-- The signed number that a 64-bit word stands for: the upper half of the words is negative. -/
def signedWord (n : Nat) : Int :=
  (n : Int).bmod UInt64.size

/-- Where a coordinate is relative to an axis of length `len`. On the axis it counts as it is; off the
axis it is a 64-bit word with a sign. -/
def place (len coordinate : Nat) : Int :=
  if coordinate < len then coordinate else signedWord coordinate

/-- Where `advance` moves by `delta` lead on an axis of length `len`. The length is added to every
move, which changes nothing on a torus. -/
def wrap (len coordinate : Nat) (delta : Int8) (advance : Nat) : Nat :=
  ((place len coordinate + (len + delta.toInt) * signedWord advance) % len).toNat

/-- The location `advance` cells from `l` in direction `d`. -/
def offset (g : Grid) (l : Location) (d : Direction) (advance : Nat) : Location :=
  ⟨wrap g.width l.x d.dx advance, wrap g.height l.y d.dy advance⟩

/-- A move changes the column along the width. -/
@[simp] theorem offset_x (g : Grid) (l : Location) (d : Direction) (advance : Nat) :
    (g.offset l d advance).x = wrap g.width l.x d.dx advance := by
  rw [offset]

/-- A move changes the row along the height. -/
@[simp] theorem offset_y (g : Grid) (l : Location) (d : Direction) (advance : Nat) :
    (g.offset l d advance).y = wrap g.height l.y d.dy advance := by
  rw [offset]

/-- A move on an axis ends on the axis. -/
theorem wrap_lt {len : Nat} (h : 0 < len) (coordinate : Nat) (delta : Int8) (advance : Nat) :
    wrap len coordinate delta advance < len := by
  have hlen : (0 : Int) < len := Int.ofNat_lt.2 h
  have hlt := Int.emod_lt_of_pos
    (place len coordinate + (len + delta.toInt) * signedWord advance) hlen
  have hnonneg := Int.emod_nonneg
    (place len coordinate + (len + delta.toInt) * signedWord advance) (Int.ne_of_gt hlen)
  unfold wrap
  omega

/-- Every advance ends on the grid, wherever it starts. -/
theorem contains_offset (g : Grid) (l : Location) (d : Direction) (advance : Nat) :
    g.Contains (g.offset l d advance) := by
  rw [Contains, offset_x, offset_y]
  exact ⟨wrap_lt g.width_pos l.x d.dx advance, wrap_lt g.height_pos l.y d.dy advance⟩

/-- The pixel `advance` cells from `l` in direction `d`. -/
def read (g : Grid) (l : Location) (d : Direction) (advance : Nat) : Pixel :=
  g.get (g.offset l d advance) (g.contains_offset l d advance)

/-! ## Travel in machine words -/

/-- The place of a location among the cells, unless a product or a sum on the way is no word. -/
def checkedIndex (g : Grid) (l : Location) : Except Overflow Nat :=
  if ¬ IsWord (l.y * g.width) then .error .multiply
  else if ¬ IsWord (g.index l) then .error .add
  else .ok (g.index l)

/-- Where `advance` moves by `delta` lead, unless a product or a sum on the way is no signed word. -/
def checkedWrap (len coordinate : Nat) (delta : Int8) (advance : Nat) : Except Overflow Nat :=
  let moved := (len + delta.toInt) * signedWord advance
  if ¬ IsSignedWord moved then .error .multiply
  else if ¬ IsSignedWord (place len coordinate + moved) then .error .add
  else .ok (wrap len coordinate delta advance)

/-- The location `advance` cells from `l` in direction `d`, unless the way there overflows. The column
is computed before the row. -/
def checkedOffset (g : Grid) (l : Location) (d : Direction) (advance : Nat) :
    Except Overflow Location := do
  let x ← checkedWrap g.width l.x d.dx advance
  let y ← checkedWrap g.height l.y d.dy advance
  .ok ⟨x, y⟩

/-- The pixel `advance` cells from `l` in direction `d`, unless the way there overflows. -/
def checkedRead (g : Grid) (l : Location) (d : Direction) (advance : Nat) : Except Overflow Pixel := do
  let _ ← g.checkedOffset l d advance
  .ok (g.read l d advance)

end Grid

end PixelMachine
