import PixelMachine.Proofs.Covering

/-!
# Symmetries of the torus

A grid has no edges and no preferred side. It can be shifted along both of its axes and turned by a
quarter, and the pixels then stand at other places; a machine that is moved with its grid does the same as
before, at the moved places.

Travel is addition of whole coordinates modulo the dimensions of the grid (`Grid.offset_eq_locate`), so a
shift covers the shifted grid (`Motion.covers`). A quarter turn exchanges the axes and reverses one of
them, and turns the directions with them. Any number of shifts and turns in a row is one relocation along
which the grid covers what they make of it (`Motion.covers_all`). The main result is `Machine.stepN_moved`.
-/

set_option autoImplicit false

namespace PixelMachine

namespace Grid

/-! ## Whole coordinates -/

/-- The place on the torus that two whole coordinates lead to: the column modulo the width, and the row
modulo the height. -/
def locate (g : Grid) (x y : ℤ) : Location := ⟨(x % g.width).toNat, (y % g.height).toNat⟩

variable {g : Grid} {l : Location} {d : Direction} {x x' y y' : ℤ}

/-- The column that a whole coordinate leads to is its remainder by the width. -/
theorem locate_x (g : Grid) (x y : ℤ) : ((g.locate x y).x : ℤ) = x % g.width :=
  Int.toNat_of_nonneg (Int.emod_nonneg x (Int.natCast_ne_zero_iff_pos.2 g.width_pos))

/-- The row that a whole coordinate leads to is its remainder by the height. -/
theorem locate_y (g : Grid) (x y : ℤ) : ((g.locate x y).y : ℤ) = y % g.height :=
  Int.toNat_of_nonneg (Int.emod_nonneg y (Int.natCast_ne_zero_iff_pos.2 g.height_pos))

/-- Whole coordinates lead to a place on the grid. -/
theorem contains_locate (g : Grid) (x y : ℤ) : g.Contains (g.locate x y) := by
  have hx := Int.emod_lt_of_pos x (Int.natCast_pos.2 g.width_pos)
  have hy := Int.emod_lt_of_pos y (Int.natCast_pos.2 g.height_pos)
  rw [← locate_x g x y] at hx
  rw [← locate_y g x y] at hy
  exact ⟨Int.ofNat_lt.1 hx, Int.ofNat_lt.1 hy⟩

/-- Only the remainders of coordinates count. -/
theorem locate_congr (hx : x % g.width = x' % g.width) (hy : y % g.height = y' % g.height) :
    g.locate x y = g.locate x' y' := by
  rw [locate, locate, hx, hy]

/-- On the grid, coordinates lead where they say. -/
theorem locate_of_contains (hl : g.Contains l) : g.locate l.x l.y = l := by
  rw [locate, Int.emod_eq_of_lt (Int.natCast_nonneg _) (Int.ofNat_lt.2 hl.1),
    Int.emod_eq_of_lt (Int.natCast_nonneg _) (Int.ofNat_lt.2 hl.2)]
  rfl

/-- Reducing coordinates before something is added to them changes nothing. -/
theorem locate_locate (g : Grid) (x y a b : ℤ) :
    g.locate ((g.locate x y).x + a) ((g.locate x y).y + b) = g.locate (x + a) (y + b) := by
  apply locate_congr
  · rw [locate_x, Int.emod_add_emod]
  · rw [locate_y, Int.emod_add_emod]

/-- A move adds to the coordinates, wherever it starts. -/
theorem offset_eq_locate_place (g : Grid) (l : Location) (d : Direction) (advance : Nat) :
    g.offset l d advance =
      g.locate (place g.width l.x + d.dx.toInt * signedWord advance)
        (place g.height l.y + d.dy.toInt * signedWord advance) := by
  rw [offset, locate, ← wrap_eq_place_emod g.width_pos, ← wrap_eq_place_emod g.height_pos]
  rfl

/-- On the grid, coordinates count as they are. -/
theorem offset_eq_locate {advance : Nat} (hl : g.Contains l) (hadvance : advance < 2 ^ 63) :
    g.offset l d advance =
      g.locate (l.x + d.dx.toInt * advance) (l.y + d.dy.toInt * advance) := by
  have hcolumn : place g.width l.x = l.x := if_pos hl.1
  have hrow : place g.height l.y = l.y := if_pos hl.2
  rw [offset_eq_locate_place, hcolumn, hrow, signedWord_of_lt hadvance]

/-- Counting a remainder from the other end of an axis. -/
theorem sub_emod_eq {len : Nat} (hlen : 0 < len) (z : ℤ) :
    ((len : ℤ) - 1 - z) % len = len - 1 - z % len := by
  have hnonneg := Int.emod_nonneg z (Int.natCast_ne_zero_iff_pos.2 hlen)
  have hlt := Int.emod_lt_of_pos z (Int.natCast_pos.2 hlen)
  rw [← Int.sub_emod_emod, Int.emod_eq_of_lt (by omega) (by omega)]

/-- The pixel that whole coordinates lead to. -/
def pixel (g : Grid) (x y : ℤ) : Pixel := g.get (g.locate x y) (g.contains_locate x y)

/-- Coordinates with the same remainders lead to the same pixel. -/
theorem pixel_congr (hx : x % g.width = x' % g.width) (hy : y % g.height = y' % g.height) :
    g.pixel x y = g.pixel x' y' := by
  simp only [pixel, locate_congr hx hy]

/-- On grids, a place has the pixel that its coordinates lead to. -/
theorem get?_eq_pixel (hl : g.Contains l) : g.get? l = some (g.pixel l.x l.y) := by
  have hget : g.get? (g.locate l.x l.y) = some (g.pixel l.x l.y) :=
    get?_eq_some_get (g.contains_locate l.x l.y)
  rwa [locate_of_contains hl] at hget

/-! ## Grids by their pixels -/

/-- The grid of these dimensions that has these pixels. -/
def ofPixels (width height : Nat) (hwidth : 0 < width) (hheight : 0 < height)
    (hlt : width * height < UInt64.size) (pixel : Location → Pixel) : Grid where
  width := width
  height := height
  cells := Array.ofFn fun i : Fin (width * height) => pixel ⟨i % width, i / width⟩
  width_pos := hwidth
  height_pos := hheight
  size_eq := Array.size_ofFn
  size_lt := hlt

/-- A grid that is made of pixels has them. -/
theorem get?_ofPixels {width height : Nat} {hwidth : 0 < width} {hheight : 0 < height}
    {hlt : width * height < UInt64.size} {pixel : Location → Pixel}
    (hl : l.x < width ∧ l.y < height) :
    (ofPixels width height hwidth hheight hlt pixel).get? l = some (pixel l) := by
  have hindex : l.y * width + l.x < width * height :=
    Nat.lt_of_lt_of_eq (index_lt_size (g := ofPixels width height hwidth hheight hlt pixel) hl)
      Array.size_ofFn
  have hcolumn : (l.y * width + l.x) % width = l.x := by
    rw [Nat.mul_comm, Nat.mul_add_mod, Nat.mod_eq_of_lt hl.1]
  have hrow : (l.y * width + l.x) / width = l.y := by
    rw [Nat.mul_comm, Nat.mul_add_div hwidth, Nat.div_eq_of_lt hl.1, Nat.add_zero]
  have hget : (ofPixels width height hwidth hheight hlt pixel).get? l =
      some (pixel ⟨(l.y * width + l.x) % width, (l.y * width + l.x) / width⟩) :=
    Array.getElem?_ofFn.trans (dif_pos hindex)
  rw [hget, hcolumn, hrow]

/-- The grid whose cells are moved by `a` columns and `b` rows: a cell comes from where it was before. -/
def shifted (g : Grid) (a b : ℤ) : Grid :=
  ofPixels g.width g.height g.width_pos g.height_pos g.size_lt
    fun l => g.pixel (l.x - a) (l.y - b)

/-- The grid turned by a quarter: what was its lowest row is its first column. -/
def turned (g : Grid) : Grid :=
  ofPixels g.height g.width g.height_pos g.width_pos (Nat.mul_comm g.width g.height ▸ g.size_lt)
    fun l => g.pixel l.y (g.height - 1 - l.x)

/-- A place goes along with a quarter turn of the grid. -/
theorem contains_turned (hl : g.Contains l) : g.turned.Contains ⟨g.height - 1 - l.y, l.x⟩ := by
  have hpos := g.height_pos
  have hcolumn : g.height - 1 - l.y < g.height := by omega
  exact ⟨hcolumn, hl.1⟩

end Grid

/-! ## Shifts and quarter turns -/

/-- What can be done to a torus. -/
inductive Motion where
  /-- Shift it by a number of columns and a number of rows. -/
  | shift (a b : ℤ)
  /-- Turn it by a quarter. -/
  | turn

/-- The grid after a motion. -/
def Grid.moved (g : Grid) : Motion → Grid
  | .shift a b => g.shifted a b
  | .turn => g.turned

namespace Motion

/-- Where a motion takes the places and the directions of a grid. -/
def relocation (g : Grid) : Motion → Relocation
  | shift a b => ⟨fun l => g.locate (l.x + a) (l.y + b), id⟩
  | turn => ⟨fun l => ⟨g.height - 1 - l.y, l.x⟩, Direction.rotated⟩

/-- Where motions take the places and the directions of a grid, one after another. -/
def relocations (g : Grid) : List Motion → Relocation
  | [] => .refl
  | motion :: rest => (motion.relocation g).trans (relocations (g.moved motion) rest)

variable (g : Grid)

/-- A grid covers the one that it is shifted to. -/
theorem covers_shift (a b : ℤ) : ((shift a b).relocation g).Covers g (g.shifted a b) where
  contains l _ := g.contains_locate _ _
  get?_eq l hl := by
    have hcontains := g.contains_locate (l.x + a) (l.y + b)
    have hget : (g.shifted a b).get? (g.locate (l.x + a) (l.y + b)) = some _ :=
      Grid.get?_ofPixels hcontains
    rw [relocation, hget, Grid.get?_eq_pixel hl, Option.some.injEq]
    refine Grid.pixel_congr ?_ ?_
    · rw [Grid.locate_x, Int.emod_sub_emod, Int.add_sub_cancel]
    · rw [Grid.locate_y, Int.emod_sub_emod, Int.add_sub_cancel]
  isUnit d hd := hd
  rotated_eq _ _ := rfl
  offset_eq l d advance hl _ hadvance := by
    have hcontains : (g.shifted a b).Contains (g.locate (l.x + a) (l.y + b)) :=
      g.contains_locate (l.x + a) (l.y + b)
    rw [relocation, Grid.offset_eq_locate hl hadvance]
    refine Eq.trans ?_ (Grid.offset_eq_locate hcontains hadvance).symm
    -- shifting what was moved and moving what was shifted add the same
    refine Eq.trans (g.locate_locate _ _ a b) (Eq.trans ?_ (g.locate_locate _ _ _ _).symm)
    rw [Int.add_right_comm, Int.add_right_comm (l.y : ℤ)]
    rfl

/-- A grid covers the one that it is turned to. -/
theorem covers_turn : (turn.relocation g).Covers g g.turned where
  contains l hl := Grid.contains_turned hl
  get?_eq l hl := by
    have hget : g.turned.get? ⟨g.height - 1 - l.y, l.x⟩ = some _ :=
      Grid.get?_ofPixels (Grid.contains_turned hl)
    have hrow : (g.height : ℤ) - 1 - (g.height - 1 - l.y : ℕ) = l.y := by
      have := hl.2
      omega
    rw [relocation, hget, Grid.get?_eq_pixel hl, hrow]
  isUnit _ hd := hd.rotated
  rotated_eq _ _ := rfl
  offset_eq l d advance hl hd hadvance := by
    have hreversed : d.rotated.dx.toInt = -d.dy.toInt := by
      rcases hd with rfl | rfl | rfl | rfl <;> decide
    have hrow : ((g.offset l d advance).y : ℤ) = (l.y + d.dy.toInt * advance) % g.height := by
      rw [Grid.offset_eq_locate hl hadvance, Grid.locate_y]
    -- rows run downwards, but the columns that they turn into are counted from the other end
    have hcolumn : ((g.height - 1 - (g.offset l d advance).y : ℕ) : ℤ) =
        ((g.height - 1 - l.y : ℕ) + d.rotated.dx.toInt * advance) % g.height := by
      have hlt := (g.contains_offset l d advance).2
      have hlt' := hl.2
      have hsum : ((g.height - 1 - l.y : ℕ) : ℤ) + d.rotated.dx.toInt * advance =
          g.height - 1 - (l.y + d.dy.toInt * advance) := by
        rw [hreversed, Int.neg_mul]
        omega
      rw [hsum, Grid.sub_emod_eq g.height_pos, ← hrow]
      omega
    rw [relocation, Grid.offset_eq_locate (Grid.contains_turned hl) hadvance]
    refine Location.ext (Int.natCast_inj.1 ?_) ?_
    · rw [Grid.locate_x]
      exact hcolumn
    · rw [Grid.offset_eq_locate hl hadvance]
      rfl

/-- A grid covers what a motion makes of it. -/
theorem covers (motion : Motion) : (motion.relocation g).Covers g (g.moved motion) := by
  cases motion with
  | shift a b => exact covers_shift g a b
  | turn => exact covers_turn g

/-- And what motions make of it in a row. -/
theorem covers_all (motions : List Motion) :
    (relocations g motions).Covers g (motions.foldl Grid.moved g) := by
  induction motions generalizing g with
  | nil => exact .refl g
  | cons motion rest ih => exact (motion.covers g).trans (ih (g.moved motion))

end Motion

namespace Machine

/-! ## Machines that are moved -/

/-- The machine moved with its grid. -/
def moved (m : Machine) (motion : Motion) : Machine :=
  m.relocated (motion.relocation m.grid) (m.grid.moved motion)

/-- Motions in a row are one relocation. -/
theorem foldl_moved (m : Machine) (motions : List Motion) :
    motions.foldl moved m =
      m.relocated (Motion.relocations m.grid motions) (motions.foldl Grid.moved m.grid) := by
  induction motions generalizing m with
  | nil =>
    rw [List.foldl_nil, relocated, Motion.relocations, State.relocated_refl, List.foldl_nil]
  | cons motion rest ih =>
    rw [List.foldl_cons, ih, relocated, relocated, Motion.relocations, State.relocated_trans,
      List.foldl_cons]
    rfl

/-- A machine does not notice that it is moved. However its grid is shifted and turned, it has the same
pixels at the moved places; any number of steps of the moved machine lead where the steps lead and the
motions from there; and the step after them has the same result, but that an error is reported of the moved
place. -/
theorem stepN_moved (m : Machine) (hm : m.state.OnGrid m.grid) (motions : List Motion) (n : Nat) :
    let r := Motion.relocations m.grid motions
    let m' := motions.foldl moved m
    (∀ l, m.grid.Contains l → m'.grid.get? (r.place l) = m.grid.get? l) ∧
    m'.stepN n = motions.foldl moved (m.stepN n) ∧
    (m'.stepN n).step.result = (m.stepN n).step.result.mapError (StepError.relocated r) := by
  intro r m'
  have hcovers := Motion.covers_all m.grid motions
  have hm' : m' = m.relocated r (motions.foldl Grid.moved m.grid) := foldl_moved m motions
  have hn : motions.foldl moved (m.stepN n) =
      (m.stepN n).relocated r (motions.foldl Grid.moved m.grid) := by
    rw [foldl_moved, grid_stepN]
  rw [hn, hm']
  exact ⟨hcovers.get?_eq, stepN_relocated hcovers hm n, result_relocated hcovers hm n⟩

/-- A program on two rows that sets a register, turns south and throws. -/
def corner : Grid :=
  .paint 3 2 #[⟨1, 2, 1⟩, ⟨0, 77, 0⟩, ⟨6, 2, 3⟩, ⟨255, 0, 0⟩, ⟨255, 0, 0⟩, ⟨7, 1, 0⟩] (by decide)

/-- The corner, shifted over its upper edge and turned. It starts in another row, on its way south, and
throws at the place of the throw. -/
theorem stepN_moved_corner :
    let m := (new corner (.ofCodes [])).run
    let motions := [Motion.shift 1 (-1), .turn]
    m.state.OnGrid m.grid ∧
      (motions.foldl moved m).state.location = ⟨0, 1⟩ ∧
      (motions.foldl moved m).state.direction = .south ∧
      (motions.foldl moved m).stepN 2 = motions.foldl moved (m.stepN 2) ∧
      (m.stepN 2).step.result = .error (.uncaught 77 (.user 77) ⟨2, 1⟩) ∧
      ((motions.foldl moved m).stepN 2).step.result = .error (.uncaught 77 (.user 77) ⟨1, 0⟩) := by
  intro m motions
  have hm : m.state.OnGrid m.grid := (new corner (.ofCodes [])).placed_run.onGrid
  obtain ⟨-, hsteps, hresult⟩ := stepN_moved m hm motions 2
  have hraised : (m.stepN 2).deed? = some (.raised (.user 77)) := by decide +kernel
  have hthrown := (step_of_uncaught hraised (by decide +kernel)).2
  have hplace : (m.stepN 2).state.location = ⟨2, 1⟩ := by decide +kernel
  rw [hplace] at hthrown
  have hmoved : (Motion.relocations m.grid motions).place ⟨2, 1⟩ = ⟨1, 0⟩ := by decide +kernel
  refine ⟨hm, by decide +kernel, by decide +kernel, hsteps, hthrown, ?_⟩
  rw [hresult, hthrown, ← hmoved]
  rfl

end Machine

end PixelMachine
