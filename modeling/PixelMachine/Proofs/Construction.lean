import PixelMachine.Grid
import Mathlib.Data.List.OfFn
import Mathlib.Order.Nat

/-!
# Pictures and the grids that are built from them

A picture is given as pixels row after row, as a buffer of four bytes a pixel, or as a list of rows. Each
way of giving it has its own test, but what comes out is the same: a grid shows a picture if it has its
dimensions and the pixel of the picture at each location (`Grid.Shows`), and no two grids show the same
one (`Grid.Shows.unique`).

Each test is read once for what it lets through and once for what then comes out, so the way back is short:
what is taken from a grid passes the test, shows what the grid shows, and so gives the grid again. The main
results are `Grid.construction`, and `Grid.refusal` on the reasons that are given for a refusal. A buffer
that ends inside a pixel is refused before its dimensions are looked at, and then the reason can be a wrong
one.
-/

set_option autoImplicit false

namespace PixelMachine.Grid

variable {g h : Grid} {l : Location} {width height : Nat} {cells : Array Pixel} {bytes : List UInt8}
  {pixel? : Location → Option Pixel}

/-! ## Pictures -/

/-- The grid has these dimensions, and its pixels are those of the picture. -/
structure Shows (g : Grid) (width height : Nat) (pixel? : Location → Option Pixel) : Prop where
  width_eq : g.width = width
  height_eq : g.height = height
  pixel?_eq : ∀ l (hl : g.Contains l), pixel? l = some (g.get l hl)

/-- A number below that of the cells is the place of a location on the grid. -/
theorem contains_of_lt_size {i : Nat} (hi : i < g.cells.size) :
    g.Contains ⟨i % g.width, i / g.width⟩ := by
  rw [g.size_eq] at hi
  exact ⟨Nat.mod_lt i g.width_pos, Nat.div_lt_of_lt_mul hi⟩

/-- A grid has its cells row after row. -/
theorem get?_eq_getElem? (g : Grid) (i : Nat) :
    g.get? ⟨i % g.width, i / g.width⟩ = g.cells[i]? := by
  rw [get?, index, Nat.div_add_mod']

/-- No two grids show the same picture. -/
theorem Shows.unique (hg : g.Shows width height pixel?) (hh : h.Shows width height pixel?) :
    g = h := by
  have hwidth : g.width = h.width := hg.width_eq.trans hh.width_eq.symm
  have hheight : g.height = h.height := hg.height_eq.trans hh.height_eq.symm
  have hsize : g.cells.size = h.cells.size := by rw [g.size_eq, h.size_eq, hwidth, hheight]
  refine Grid.ext hwidth hheight (Array.ext_getElem? fun i => ?_)
  by_cases hi : i < g.cells.size
  · have hgi := contains_of_lt_size hi
    have hhi := contains_of_lt_size (hsize ▸ hi)
    rw [← g.get?_eq_getElem?, ← h.get?_eq_getElem?, get?_eq_some_get hgi, get?_eq_some_get hhi,
      ← hg.pixel?_eq, ← hh.pixel?_eq, hwidth]
  · have hge : g.cells.size ≤ i := Nat.le_of_not_lt hi
    rw [Array.getElem?_eq_none hge, Array.getElem?_eq_none (hsize ▸ hge)]

/-! ## From cells -/

/-- The four ends of the test of cells. -/
theorem ofCells_cases (width height : Nat) (cells : Array Pixel) :
    (width = 0 ∨ height = 0) ∧
      ofCells width height cells = .error (.emptyDimensions width height) ∨
    UInt64.size ≤ width * height ∧
      ofCells width height cells = .error (.tooLarge width height) ∨
    (width ≠ 0 ∧ height ≠ 0 ∧ width * height < UInt64.size ∧ cells.size ≠ width * height) ∧
      ofCells width height cells = .error (.cellCountMismatch (width * height) cells.size) ∨
    ∃ g, ofCells width height cells = .ok g ∧
      g.width = width ∧ g.height = height ∧ g.cells = cells := by
  unfold ofCells
  split
  · next hpos =>
    split
    · next hlt =>
      split
      · exact .inr (.inr (.inr ⟨_, rfl, rfl, rfl, rfl⟩))
      · next hsize => exact .inr (.inr (.inl ⟨⟨hpos.1.ne', hpos.2.ne', hlt, hsize⟩, rfl⟩))
    · next hlt => exact .inr (.inl ⟨Nat.le_of_not_lt hlt, rfl⟩)
  · next hpos => exact .inl ⟨by omega, rfl⟩

/-- The grid that is built from cells has these cells and dimensions. -/
theorem ofCells_eq_ok_iff :
    ofCells width height cells = .ok g ↔ g.width = width ∧ g.height = height ∧ g.cells = cells := by
  constructor
  · intro hok
    rcases ofCells_cases width height cells with
      ⟨-, h⟩ | ⟨-, h⟩ | ⟨-, h⟩ | ⟨g', h, hshape⟩
    all_goals cases hok.symm.trans h
    exact hshape
  · rintro ⟨rfl, rfl, rfl⟩
    rw [ofCells, dif_pos ⟨g.width_pos, g.height_pos⟩, dif_pos g.size_lt, dif_pos g.size_eq]

/-- A grid is built from cells exactly if the dimensions are not zero, a word can count the cells that they
ask for, and there are as many. -/
theorem exists_ofCells_iff :
    (∃ g, ofCells width height cells = .ok g) ↔
      0 < width ∧ 0 < height ∧ width * height < UInt64.size ∧ cells.size = width * height := by
  constructor
  · rintro ⟨g, hok⟩
    obtain ⟨rfl, rfl, rfl⟩ := ofCells_eq_ok_iff.1 hok
    exact ⟨g.width_pos, g.height_pos, g.size_lt, g.size_eq⟩
  · rintro ⟨hwidth, hheight, hlt, hsize⟩
    exact ⟨⟨width, height, cells, hwidth, hheight, hsize, hlt⟩, ofCells_eq_ok_iff.2 ⟨rfl, rfl, rfl⟩⟩

/-- The grid that is built from cells shows them row after row. -/
theorem shows_of_ofCells (hok : ofCells width height cells = .ok g) :
    g.Shows width height fun l => cells[l.y * width + l.x]? := by
  obtain ⟨rfl, rfl, rfl⟩ := ofCells_eq_ok_iff.1 hok
  exact ⟨rfl, rfl, fun _ hl => get?_eq_some_get hl⟩

/-- The pixel with a number in a buffer of four bytes a pixel. -/
def rgbaPixel? (bytes : List UInt8) (i : Nat) : Option Pixel := do
  let red ← bytes[4 * i]?
  let green ← bytes[4 * i + 1]?
  let blue ← bytes[4 * i + 2]?
  some ⟨red, green, blue⟩

/-- Pixels with their opacities as a buffer of four bytes a pixel. -/
def rgbaBytes (painted : List (Pixel × UInt8)) : List UInt8 :=
  painted.flatMap fun (p, opacity) => p.toList ++ [opacity]

/-- Four bytes make a pixel, and bytes that are left over make none. -/
theorem length_rgbaPixels : ∀ bytes : List UInt8, (rgbaPixels bytes).length = bytes.length / 4
  | [] | [_] | [_, _] | [_, _, _] => by simp [rgbaPixels]
  | _ :: _ :: _ :: _ :: rest => by
    simp only [rgbaPixels, List.length_cons, length_rgbaPixels rest]
    omega

/-- The pixels of a buffer are those that its bytes stand for. -/
theorem getElem?_rgbaPixels :
    ∀ (bytes : List UInt8) {i : Nat}, i < bytes.length / 4 → (rgbaPixels bytes)[i]? = rgbaPixel? bytes i
  | [], _, hi | [_], _, hi | [_, _], _, hi | [_, _, _], _, hi => by simp at hi
  | _ :: _ :: _ :: _ :: _, 0, _ => by simp [rgbaPixels, rgbaPixel?]
  | _ :: _ :: _ :: _ :: rest, i + 1, hi => by
    have hrest : i < rest.length / 4 := by
      simp only [List.length_cons] at hi
      omega
    rw [rgbaPixels, List.getElem?_cons_succ, getElem?_rgbaPixels rest hrest]
    simp [rgbaPixel?, Nat.mul_succ]

/-- The pixels of a buffer do not hang on every fourth byte. -/
theorem rgbaPixel?_congr {bytes' : List UInt8} (hsame : ∀ i, i % 4 ≠ 3 → bytes'[i]? = bytes[i]?)
    (i : Nat) : rgbaPixel? bytes' i = rgbaPixel? bytes i := by
  simp only [rgbaPixel?, hsame (4 * i) (by omega), hsame (4 * i + 1) (by omega),
    hsame (4 * i + 2) (by omega)]

/-- The opacities have no part in the pixels. -/
theorem rgbaPixels_congr {bytes' : List UInt8} (hlength : bytes'.length = bytes.length)
    (hsame : ∀ i, i % 4 ≠ 3 → bytes'[i]? = bytes[i]?) : rgbaPixels bytes' = rgbaPixels bytes := by
  refine List.ext_getElem? fun i => ?_
  by_cases hi : i < bytes.length / 4
  · rw [getElem?_rgbaPixels _ hi, getElem?_rgbaPixels _ (hlength ▸ hi), rgbaPixel?_congr hsame]
  · have hge : bytes.length / 4 ≤ i := Nat.le_of_not_lt hi
    rw [List.getElem?_eq_none (by rwa [length_rgbaPixels, hlength]),
      List.getElem?_eq_none (by rwa [length_rgbaPixels])]

/-- A pixel is written as four bytes, before those of the others. -/
@[simp] theorem rgbaBytes_cons (p : Pixel × UInt8) (rest : List (Pixel × UInt8)) :
    rgbaBytes (p :: rest) = p.1.red :: p.1.green :: p.1.blue :: p.2 :: rgbaBytes rest :=
  rfl

/-- A buffer has four bytes a pixel. -/
theorem length_rgbaBytes (painted : List (Pixel × UInt8)) :
    (rgbaBytes painted).length = 4 * painted.length := by
  induction painted with
  | nil => rfl
  | cons p rest ih =>
    simp only [rgbaBytes_cons, List.length_cons, ih]
    omega

/-- The pixels of a buffer are those that it was written from. -/
theorem rgbaPixels_rgbaBytes (painted : List (Pixel × UInt8)) :
    rgbaPixels (rgbaBytes painted) = painted.map Prod.fst := by
  induction painted with
  | nil => rfl
  | cons p rest ih => simp [rgbaPixels, ih]

/-- A buffer of whole pixels is taken as its pixels. -/
theorem ofRgba_of_whole (hwhole : bytes.length % 4 = 0) :
    ofRgba width height bytes = ofCells width height (rgbaPixels bytes).toArray :=
  if_pos hwhole

/-- A buffer that ends inside a pixel is refused for its number of whole pixels, or for dimensions that are
too large. -/
theorem ofRgba_of_broken (hbroken : bytes.length % 4 ≠ 0) :
    ofRgba width height bytes =
      if width * height < UInt64.size then
        .error (.cellCountMismatch (width * height) (bytes.length / 4))
      else .error (.tooLarge width height) := by
  rw [ofRgba, if_neg hbroken, cellCount]
  split <;> rfl

/-- A grid is built from a buffer if it is one of whole pixels, from which the grid is built. -/
theorem ofRgba_eq_ok_iff :
    ofRgba width height bytes = .ok g ↔
      bytes.length % 4 = 0 ∧ ofCells width height (rgbaPixels bytes).toArray = .ok g := by
  by_cases hwhole : bytes.length % 4 = 0
  · rw [ofRgba_of_whole hwhole, and_iff_right hwhole]
  · rw [ofRgba_of_broken hwhole]
    split <;> simp [hwhole]

/-- A grid is built from a buffer exactly if the dimensions are not zero, a word can count the cells that they
ask for, and there are four times as many bytes. -/
theorem exists_ofRgba_iff :
    (∃ g, ofRgba width height bytes = .ok g) ↔
      0 < width ∧ 0 < height ∧ width * height < UInt64.size ∧
        bytes.length = 4 * (width * height) := by
  simp only [ofRgba_eq_ok_iff, exists_and_left, exists_ofCells_iff, List.size_toArray,
    length_rgbaPixels]
  constructor
  · rintro ⟨hwhole, hwidth, hheight, hlt, hlength⟩
    exact ⟨hwidth, hheight, hlt, by omega⟩
  · rintro ⟨hwidth, hheight, hlt, hlength⟩
    exact ⟨by omega, hwidth, hheight, hlt, by omega⟩

/-- The grid that is built from a buffer shows its pixels row after row. -/
theorem shows_of_ofRgba (hok : ofRgba width height bytes = .ok g) :
    g.Shows width height fun l => rgbaPixel? bytes (l.y * width + l.x) := by
  obtain ⟨hwhole, hcells⟩ := ofRgba_eq_ok_iff.1 hok
  have hshows := shows_of_ofCells hcells
  refine ⟨hshows.width_eq, hshows.height_eq, fun l hl => ?_⟩
  have hpixel := hshows.pixel?_eq l hl
  rw [List.getElem?_toArray] at hpixel
  have hlt := (List.getElem?_eq_some_iff.1 hpixel).1
  rw [length_rgbaPixels] at hlt
  rw [← getElem?_rgbaPixels bytes hlt, hpixel]

/-- Buffers that differ in every fourth byte at most give the same. -/
theorem ofRgba_congr {bytes' : List UInt8} (hlength : bytes'.length = bytes.length)
    (hsame : ∀ i, i % 4 ≠ 3 → bytes'[i]? = bytes[i]?) :
    ofRgba width height bytes' = ofRgba width height bytes := by
  by_cases hwhole : bytes.length % 4 = 0
  · rw [ofRgba_of_whole hwhole, ofRgba_of_whole (hlength ▸ hwhole), rgbaPixels_congr hlength hsame]
  · rw [ofRgba_of_broken hwhole, ofRgba_of_broken (hlength ▸ hwhole), hlength]

/-! ## From rows -/

section Table

variable {α β : Type} {table : List (List α)} {table' : List (List β)} {row : Nat}

/-- The length of the first row, or zero without rows. -/
def firstLength (table : List (List α)) : Nat := (table.head?.map List.length).getD 0

/-- The rows that are not as long as the first one. -/
def raggedRows (table : List (List α)) : Set Nat :=
  {row | ∃ entries, table[row]? = some entries ∧ entries.length ≠ firstLength table}

/-- The first row has entries if there is a first row and it is not empty. -/
theorem firstLength_pos_iff :
    0 < firstLength table ↔ table ≠ [] ∧ table.head? ≠ some [] := by
  cases table with
  | nil => simp [firstLength]
  | cons first rest => simp [firstLength, List.length_pos_iff]

/-- No row is ragged if all are as long as the first one. -/
theorem raggedRows_eq_empty_iff :
    raggedRows table = ∅ ↔ ∀ entries ∈ table, entries.length = firstLength table := by
  rw [Set.eq_empty_iff_forall_notMem]
  constructor
  · intro hnone entries hmem
    obtain ⟨row, hrow⟩ := List.mem_iff_getElem?.1 hmem
    by_contra hne
    exact hnone row ⟨entries, hrow, hne⟩
  · rintro hsame row ⟨entries, hrow, hne⟩
    exact hne (hsame entries (List.mem_of_getElem? hrow))

/-- Among the ragged rows there is a first one. -/
theorem exists_isLeast_raggedRows (h : raggedRows table ≠ ∅) :
    ∃ row entries, IsLeast (raggedRows table) row ∧ table[row]? = some entries := by
  classical
  have hleast := (Set.nonempty_iff_ne_empty.2 h).isLeast_natFind
  obtain ⟨entries, hentries, -⟩ := hleast.1
  exact ⟨_, entries, hleast, hentries⟩

/-- In a table with rows of one length, the entries are found by the place that they have row after row. -/
theorem getElem?_flatten {width : Nat} (hlength : ∀ entries ∈ table, entries.length = width) {x : Nat}
    (hx : x < width) (y : Nat) :
    table.flatten[y * width + x]? = table[y]?.bind fun entries => entries[x]? := by
  induction table generalizing y with
  | nil => simp
  | cons entries rest ih =>
    obtain ⟨hfirst, hrest⟩ := List.forall_mem_cons.1 hlength
    rw [List.flatten_cons]
    cases y with
    | zero =>
      rw [Nat.zero_mul, Nat.zero_add, List.getElem?_append_left (hfirst.symm ▸ hx)]
      rfl
    | succ y =>
      have hplace : (y + 1) * width + x - entries.length = y * width + x := by
        rw [hfirst, Nat.succ_mul]
        omega
      have hge : entries.length ≤ (y + 1) * width + x := by
        rw [hfirst, Nat.succ_mul]
        omega
      rw [List.getElem?_append_right hge, hplace, ih hrest]
      rfl

/-- Rows of one length have together as many entries as there are rows, times the length. -/
theorem length_flatten {width : Nat} (hlength : ∀ entries ∈ table, entries.length = width) :
    table.flatten.length = width * table.length := by
  induction table with
  | nil => simp
  | cons entries rest ih =>
    obtain ⟨hfirst, hrest⟩ := List.forall_mem_cons.1 hlength
    rw [List.flatten_cons, List.length_append, hfirst, ih hrest, List.length_cons, Nat.mul_succ,
      Nat.add_comm]

end Table

section Rows

variable {rows : List (List Pixel)}

/-- The scan finds nothing in rows of one length. -/
theorem firstRagged?_of_rectangle (hlength : ∀ pixels ∈ rows, pixels.length = width) (start : Nat) :
    firstRagged? width rows start = none := by
  induction rows generalizing start with
  | nil => rfl
  | cons pixels rest ih =>
    obtain ⟨hfirst, hrest⟩ := List.forall_mem_cons.1 hlength
    rw [firstRagged?, if_pos hfirst, ih hrest]

/-- Rows are counted from `start`, and the one that is told is the first that has another length. -/
theorem firstRagged?_of_before {i : Nat} {pixels : List Pixel} (hrow : rows[i]? = some pixels)
    (hne : pixels.length ≠ width)
    (hbefore : ∀ j < i, ∀ earlier, rows[j]? = some earlier → earlier.length = width) (start : Nat) :
    firstRagged? width rows start = some (start + i, pixels.length) := by
  induction rows generalizing i start with
  | nil => cases hrow
  | cons first rest ih =>
    cases i with
    | zero =>
      cases hrow
      rw [firstRagged?, if_neg hne, Nat.add_zero]
    | succ i =>
      have hfirst := hbefore 0 (Nat.succ_pos i) first rfl
      have hrest := ih hrow fun j hj => hbefore (j + 1) (Nat.succ_lt_succ hj)
      rw [firstRagged?, if_pos hfirst, hrest, Nat.add_right_comm, Nat.add_assoc]

/-- Rows are refused if a word cannot count the cells that they ask for. -/
theorem ofRows_of_tooLarge (hsize : UInt64.size ≤ firstLength rows * rows.length) :
    ofRows rows = .error (.tooLarge (firstLength rows) rows.length) := by
  have hcount : cellCount (firstLength rows) rows.length = .error _ := if_neg (Nat.not_lt.2 hsize)
  change (cellCount (firstLength rows) rows.length >>= fun _ => _) = _
  rw [hcount]
  rfl

/-- Rows that a word can count are refused for the first ragged one, if there is one, and else taken as cells.
-/
theorem ofRows_of_lt (hsize : firstLength rows * rows.length < UInt64.size) :
    ofRows rows = match firstRagged? (firstLength rows) rows 0 with
      | some (row, found) => .error (.raggedRow row (firstLength rows) found)
      | none => ofCells (firstLength rows) rows.length rows.flatten.toArray := by
  have hcount : cellCount (firstLength rows) rows.length = .ok _ := if_pos hsize
  change (cellCount (firstLength rows) rows.length >>= fun _ => _) = _
  rw [hcount]
  rfl

/-- Rows of one length are taken as cells. -/
theorem ofRows_of_rectangle (hsize : firstLength rows * rows.length < UInt64.size)
    (hragged : raggedRows rows = ∅) :
    ofRows rows = ofCells (firstLength rows) rows.length rows.flatten.toArray := by
  rw [ofRows_of_lt hsize, firstRagged?_of_rectangle (raggedRows_eq_empty_iff.1 hragged)]

/-- Rows are refused for the first ragged one. -/
theorem ofRows_of_ragged (hsize : firstLength rows * rows.length < UInt64.size) {row : Nat}
    {pixels : List Pixel} (hleast : IsLeast (raggedRows rows) row) (hrow : rows[row]? = some pixels) :
    ofRows rows = .error (.raggedRow row (firstLength rows) pixels.length) := by
  obtain ⟨⟨entries, hentries, hne⟩, hmin⟩ := hleast
  obtain rfl : entries = pixels := Option.some.inj (hentries.symm.trans hrow)
  have hbefore : ∀ j < row, ∀ earlier, rows[j]? = some earlier → earlier.length = firstLength rows := by
    intro j hj earlier hearlier
    by_contra hother
    exact Nat.not_le_of_lt hj (hmin ⟨earlier, hearlier, hother⟩)
  rw [ofRows_of_lt hsize, firstRagged?_of_before hrow hne hbefore 0, Nat.zero_add]

/-- A grid is built from rows if none is ragged and the grid is built from their pixels. -/
theorem ofRows_eq_ok_iff :
    ofRows rows = .ok g ↔
      raggedRows rows = ∅ ∧ ofCells (firstLength rows) rows.length rows.flatten.toArray = .ok g := by
  constructor
  · intro hok
    by_cases hsize : firstLength rows * rows.length < UInt64.size
    · by_cases hragged : raggedRows rows = ∅
      · exact ⟨hragged, ofRows_of_rectangle hsize hragged ▸ hok⟩
      · obtain ⟨row, pixels, hleast, hrow⟩ := exists_isLeast_raggedRows hragged
        rw [ofRows_of_ragged hsize hleast hrow] at hok
        cases hok
    · rw [ofRows_of_tooLarge (Nat.le_of_not_lt hsize)] at hok
      cases hok
  · rintro ⟨hragged, hok⟩
    obtain ⟨-, -, hsize, -⟩ := exists_ofCells_iff.1 ⟨g, hok⟩
    rw [ofRows_of_rectangle hsize hragged, hok]

/-- A grid is built from rows exactly if there are some, the first is not empty, all are as long as it, and a
word can count the pixels. -/
theorem exists_ofRows_iff :
    (∃ g, ofRows rows = .ok g) ↔
      rows ≠ [] ∧ rows.head? ≠ some [] ∧ (∀ pixels ∈ rows, pixels.length = firstLength rows) ∧
        firstLength rows * rows.length < UInt64.size := by
  simp only [ofRows_eq_ok_iff, exists_and_left, exists_ofCells_iff, firstLength_pos_iff,
    raggedRows_eq_empty_iff, List.size_toArray]
  constructor
  · rintro ⟨hlength, hfirst, -, hlt, -⟩
    exact ⟨hfirst.1, hfirst.2, hlength, hlt⟩
  · rintro ⟨hrows, hfirst, hlength, hlt⟩
    exact ⟨hlength, ⟨hrows, hfirst⟩, List.length_pos_iff.2 hrows, hlt, length_flatten hlength⟩

/-- The grid that is built from rows shows them. -/
theorem shows_of_ofRows (hok : ofRows rows = .ok g) :
    g.Shows (firstLength rows) rows.length fun l => rows[l.y]?.bind fun pixels => pixels[l.x]? := by
  obtain ⟨hragged, hcells⟩ := ofRows_eq_ok_iff.1 hok
  have hshows := shows_of_ofCells hcells
  refine ⟨hshows.width_eq, hshows.height_eq, fun l hl => ?_⟩
  have hx : l.x < firstLength rows := hshows.width_eq ▸ hl.1
  rw [← getElem?_flatten (raggedRows_eq_empty_iff.1 hragged) hx, ← hshows.pixel?_eq l hl,
    List.getElem?_toArray]

end Rows

/-! ## There and back -/

/-- The rows of a grid, from top to bottom. -/
def rows (g : Grid) : List (List Pixel) :=
  List.ofFn fun y : Fin g.height => List.ofFn fun x : Fin g.width => g.get ⟨x, y⟩ ⟨x.2, y.2⟩

/-- A grid has as many rows as it is high. -/
theorem length_rows (g : Grid) : g.rows.length = g.height := List.length_ofFn

/-- The rows of a grid are as long as it is wide. -/
theorem length_of_mem_rows {pixels : List Pixel} (hmem : pixels ∈ g.rows) :
    pixels.length = g.width := by
  obtain ⟨y, rfl⟩ := List.mem_ofFn.1 hmem
  exact List.length_ofFn

/-- A grid has rows. -/
theorem rows_ne_nil (g : Grid) : g.rows ≠ [] :=
  List.ne_nil_of_length_pos (g.length_rows ▸ g.height_pos)

/-- The first row of a grid is as long as the grid is wide. -/
theorem firstLength_rows (g : Grid) : firstLength g.rows = g.width := by
  obtain ⟨first, rest, hrows⟩ := List.exists_cons_of_ne_nil g.rows_ne_nil
  have hmem : first ∈ g.rows := hrows ▸ List.mem_cons_self
  rw [hrows]
  exact length_of_mem_rows hmem

/-- The rows of a grid have its pixels. -/
theorem getElem?_rows (hl : g.Contains l) :
    (g.rows[l.y]?.bind fun pixels => pixels[l.x]?) = some (g.get l hl) := by
  simp [rows, hl.1, hl.2]

/-- A grid is built from its rows. -/
theorem ofRows_rows (g : Grid) : ofRows g.rows = .ok g := by
  have hsize : firstLength g.rows * g.rows.length < UInt64.size := by
    rw [firstLength_rows, length_rows]
    exact g.size_lt
  have hfirst : 0 < firstLength g.rows := g.firstLength_rows ▸ g.width_pos
  have hlength : ∀ pixels ∈ g.rows, pixels.length = firstLength g.rows := by
    intro pixels hmem
    rw [length_of_mem_rows hmem, firstLength_rows]
  obtain ⟨g', hok⟩ := exists_ofRows_iff.2
    ⟨g.rows_ne_nil, (firstLength_pos_iff.1 hfirst).2, hlength, hsize⟩
  have hshows := shows_of_ofRows hok
  rw [firstLength_rows, length_rows] at hshows
  have hself : g.Shows g.width g.height fun l => g.rows[l.y]?.bind fun pixels => pixels[l.x]? :=
    ⟨rfl, rfl, fun l hl => getElem?_rows hl⟩
  rw [hok, hshows.unique hself]

/-- A grid is built from its cells. -/
theorem ofCells_rows (g : Grid) : ofCells g.width g.height g.rows.flatten.toArray = .ok g := by
  have hok := (ofRows_eq_ok_iff.1 g.ofRows_rows).2
  rwa [firstLength_rows, length_rows] at hok

/-- A grid is built from its pixels, with a fourth byte of any value each. -/
theorem ofRgba_rgbaBytes {painted : List (Pixel × UInt8)}
    (hpainted : painted.map Prod.fst = g.rows.flatten) :
    ofRgba g.width g.height (rgbaBytes painted) = .ok g := by
  have hwhole : (rgbaBytes painted).length % 4 = 0 := by
    rw [length_rgbaBytes]
    omega
  rw [ofRgba_of_whole hwhole, rgbaPixels_rgbaBytes, hpainted, ofCells_rows]

/-! ## What is accepted, and what is refused -/

/-- A grid is built exactly from a picture that is one. Cells have to be as many as the dimensions ask for,
a buffer has to have four bytes for each of them, and rows have to be of one length; the dimensions may not
be zero, and a 64-bit word has to count the cells. The grid then shows the picture, whatever the opacities
in a buffer are. And a grid is built again from its cells, from its rows, and from a buffer with its pixels
and any opacities. -/
theorem construction (width height : Nat) :
    (∀ cells : Array Pixel,
      ((∃ g, ofCells width height cells = .ok g) ↔
        0 < width ∧ 0 < height ∧ width * height < UInt64.size ∧ cells.size = width * height) ∧
      ∀ g, ofCells width height cells = .ok g →
        g.Shows width height fun l => cells[l.y * width + l.x]?) ∧
    (∀ bytes : List UInt8,
      ((∃ g, ofRgba width height bytes = .ok g) ↔
        0 < width ∧ 0 < height ∧ width * height < UInt64.size ∧
          bytes.length = 4 * (width * height)) ∧
      (∀ g, ofRgba width height bytes = .ok g →
        g.Shows width height fun l => rgbaPixel? bytes (l.y * width + l.x)) ∧
      ∀ bytes' : List UInt8, bytes'.length = bytes.length →
        (∀ i, i % 4 ≠ 3 → bytes'[i]? = bytes[i]?) →
          ofRgba width height bytes' = ofRgba width height bytes) ∧
    (∀ rows : List (List Pixel),
      ((∃ g, ofRows rows = .ok g) ↔
        rows ≠ [] ∧ rows.head? ≠ some [] ∧ (∀ pixels ∈ rows, pixels.length = firstLength rows) ∧
          firstLength rows * rows.length < UInt64.size) ∧
      ∀ g, ofRows rows = .ok g →
        g.Shows (firstLength rows) rows.length fun l => rows[l.y]?.bind fun pixels => pixels[l.x]?) ∧
    ∀ g : Grid,
      ofCells g.width g.height g.rows.flatten.toArray = .ok g ∧ ofRows g.rows = .ok g ∧
        ∀ painted : List (Pixel × UInt8), painted.map Prod.fst = g.rows.flatten →
          ofRgba g.width g.height (rgbaBytes painted) = .ok g := by
  refine ⟨fun cells => ⟨exists_ofCells_iff, fun g => shows_of_ofCells⟩, fun bytes => ?_, fun rows => ?_,
    fun g => ?_⟩
  · exact ⟨exists_ofRgba_iff, fun g => shows_of_ofRgba, fun bytes' => ofRgba_congr⟩
  · exact ⟨exists_ofRows_iff, fun g => shows_of_ofRows⟩
  · exact ⟨g.ofCells_rows, g.ofRows_rows, fun painted => ofRgba_rgbaBytes⟩

/-- A picture of two columns and two rows, given in three ways. -/
theorem construction_square :
    let a : Pixel := ⟨1, 2, 3⟩
    let b : Pixel := ⟨4, 5, 6⟩
    ∃ g, ofRows [[a, b], [b, a]] = .ok g ∧ ofCells 2 2 #[a, b, b, a] = .ok g ∧
      ofRgba 2 2 [1, 2, 3, 255, 4, 5, 6, 0, 4, 5, 6, 7, 1, 2, 3, 9] = .ok g := by
  intro a b
  obtain ⟨-, -, hrows, hagain⟩ := construction 2 2
  obtain ⟨g, hok⟩ := (hrows [[a, b], [b, a]]).1.2 (by decide)
  have hshows := (hrows [[a, b], [b, a]]).2 g hok
  have hpixels : g.rows = [[a, b], [b, a]] := by
    have hg := (ofRows_eq_ok_iff.1 hok).2
    cases hg
    rfl
  obtain ⟨hcells, -, hbuffer⟩ := hagain g
  have hpainted := hbuffer [(a, 255), (b, 0), (b, 7), (a, 9)] (by rw [hpixels]; rfl)
  rw [hshows.width_eq, hshows.height_eq] at hcells hpainted
  rw [hpixels] at hcells
  exact ⟨g, hok, hcells, hpainted⟩

/-- The error is a true reason to refuse pixels for a grid of these dimensions. A dimension that is zero
comes before a product that is too large, and that before a number of pixels that is not the product. -/
structure IsReason (width height : Nat) (e : GridError) : Prop where
  emptyDimensions_iff : e = .emptyDimensions width height ↔ width = 0 ∨ height = 0
  tooLarge_iff :
    e = .tooLarge width height ↔ width ≠ 0 ∧ height ≠ 0 ∧ UInt64.size ≤ width * height
  mismatch : width ≠ 0 → height ≠ 0 → width * height < UInt64.size →
    ∃ found, e = .cellCountMismatch (width * height) found ∧ found ≠ width * height

/-- A dimension that is zero is a true reason. -/
theorem isReason_emptyDimensions (hzero : width = 0 ∨ height = 0) :
    IsReason width height (.emptyDimensions width height) where
  emptyDimensions_iff := iff_of_true rfl hzero
  tooLarge_iff := by
    refine iff_of_false nofun ?_
    rintro ⟨hwidth, hheight, -⟩
    exact hzero.elim hwidth hheight
  mismatch hwidth hheight _ := (hzero.elim hwidth hheight).elim

/-- A number of cells that no word can count is a true reason, and then no dimension is zero. -/
theorem isReason_tooLarge (hsize : UInt64.size ≤ width * height) :
    IsReason width height (.tooLarge width height) := by
  have hword : 0 < UInt64.size := by decide
  have hpos : 0 < width * height := Nat.lt_of_lt_of_le hword hsize
  have hwidth : width ≠ 0 := (Nat.pos_of_mul_pos_right hpos).ne'
  have hheight : height ≠ 0 := (Nat.pos_of_mul_pos_left hpos).ne'
  exact {
    emptyDimensions_iff := iff_of_false nofun (not_or.2 ⟨hwidth, hheight⟩)
    tooLarge_iff := iff_of_true rfl ⟨hwidth, hheight, hsize⟩
    mismatch := fun _ _ hlt => absurd hsize (Nat.not_le.2 hlt) }

/-- A number of pixels is a true reason if no other applies and the dimensions ask for another number. -/
theorem isReason_cellCountMismatch_iff {found : Nat} :
    IsReason width height (.cellCountMismatch (width * height) found) ↔
      width ≠ 0 ∧ height ≠ 0 ∧ width * height < UInt64.size ∧ found ≠ width * height := by
  constructor
  · intro h
    have hempty : ¬ (width = 0 ∨ height = 0) := fun hzero => nomatch h.emptyDimensions_iff.2 hzero
    obtain ⟨hwidth, hheight⟩ := not_or.1 hempty
    have hlt : width * height < UInt64.size := by
      by_contra hsize
      exact nomatch h.tooLarge_iff.2 ⟨hwidth, hheight, Nat.le_of_not_lt hsize⟩
    obtain ⟨_, heq, hne⟩ := h.mismatch hwidth hheight hlt
    cases heq
    exact ⟨hwidth, hheight, hlt, hne⟩
  · rintro ⟨hwidth, hheight, hlt, hne⟩
    exact {
      emptyDimensions_iff := iff_of_false nofun (not_or.2 ⟨hwidth, hheight⟩)
      tooLarge_iff := iff_of_false nofun fun hlarge => absurd hlarge.2.2 (Nat.not_le.2 hlt)
      mismatch := fun _ _ _ => ⟨found, rfl, hne⟩ }

/-- Cells are refused for a true reason. -/
theorem isReason_of_ofCells {e : GridError} (h : ofCells width height cells = .error e) :
    IsReason width height e := by
  rcases ofCells_cases width height cells with
    ⟨hzero, h'⟩ | ⟨hlarge, h'⟩ | ⟨hmismatch, h'⟩ | ⟨g, h', -⟩
  all_goals cases h.symm.trans h'
  · exact isReason_emptyDimensions hzero
  · exact isReason_tooLarge hlarge
  · exact isReason_cellCountMismatch_iff.2 hmismatch

/-- Cells are refused for a true reason, and so is a buffer of whole pixels. A buffer that ends inside a
pixel is refused for its number of whole pixels, unless the dimensions are too large. That is a true reason
only if no dimension is zero and this number is another one than the dimensions ask for. -/
theorem refusal (width height : Nat) :
    (∀ cells e, ofCells width height cells = .error e → IsReason width height e) ∧
    (∀ bytes e, ofRgba width height bytes = .error e →
      (IsReason width height e ↔
        bytes.length % 4 = 0 ∨ UInt64.size ≤ width * height ∨
          width ≠ 0 ∧ height ≠ 0 ∧ bytes.length / 4 ≠ width * height)) ∧
    ∀ bytes : List UInt8, bytes.length % 4 ≠ 0 → width * height < UInt64.size →
      ofRgba width height bytes =
        .error (.cellCountMismatch (width * height) (bytes.length / 4)) := by
  refine ⟨fun cells e => isReason_of_ofCells, fun bytes e h => ?_, fun bytes hbroken hlt => ?_⟩
  · by_cases hwhole : bytes.length % 4 = 0
    · rw [ofRgba_of_whole hwhole] at h
      exact iff_of_true (isReason_of_ofCells h) (.inl hwhole)
    · rw [ofRgba_of_broken hwhole] at h
      split at h
      · next hlt =>
        cases h
        rw [isReason_cellCountMismatch_iff]
        simp only [hwhole, hlt, Nat.not_le.2 hlt, false_or, true_and]
      · next hlt =>
        cases h
        have hsize := Nat.le_of_not_lt hlt
        exact iff_of_true (isReason_tooLarge hsize) (.inr (.inl hsize))
  · rw [ofRgba_of_broken hbroken, if_pos hlt]

/-- Three bytes for a grid without columns are refused because there should be no pixels and there are
none, and nine bytes for two pixels because there should be two and there are two. -/
theorem refusal_brokenBuffer :
    ofRgba 0 3 [1, 2, 3] = .error (.cellCountMismatch 0 0) ∧
      ¬ IsReason 0 3 (.cellCountMismatch 0 0) ∧
      ofRgba 1 2 [1, 1, 1, 1, 1, 1, 1, 1, 1] = .error (.cellCountMismatch 2 2) ∧
      ¬ IsReason 1 2 (.cellCountMismatch 2 2) := by
  refine ⟨rfl, fun h => ?_, rfl, fun h => ?_⟩
  · exact (isReason_cellCountMismatch_iff.1 h).1 rfl
  · exact (isReason_cellCountMismatch_iff.1 h).2.2.2 rfl

end PixelMachine.Grid
