import PixelMachine.Overflow
import PixelMachine.Text.Quoted

/-!
# Locations and directions

The cursor stands on a location and travels in a direction. A quarter turn takes east to south,
south to west, west to north and north to east; four of them give the old direction back.
-/

set_option autoImplicit false

namespace PixelMachine

/-- A place on a grid: a column and a row, both counted from zero. -/
@[ext] structure Location where
  /-- The column, counted from the left. -/
  x : Nat
  /-- The row, counted from the top. -/
  y : Nat
  deriving DecidableEq, Inhabited

namespace Location

/-- The top left corner, where every run starts. -/
def origin : Location := ⟨0, 0⟩

/-- The text of a location, as in `(3, 4)`. -/
def text (l : Location) : String :=
  "(" ++ toString l.x ++ ", " ++ toString l.y ++ ")"

/-- A location in full detail, with the names of its coordinates. -/
def detail (l : Location) : String :=
  Text.labelled "Location" [("x", toString l.x), ("y", toString l.y)]

/-- A location whose coordinates are 64-bit words. -/
def Fits (l : Location) : Prop :=
  IsWord l.x ∧ IsWord l.y

instance (l : Location) : Decidable l.Fits :=
  inferInstanceAs (Decidable (_ ∧ _))

end Location

/-- A direction of travel: how far one cell's advance moves the cursor on each axis. -/
@[ext] structure Direction where
  /-- The change of the column. -/
  dx : Int8
  /-- The change of the row. -/
  dy : Int8
  deriving DecidableEq

namespace Direction

/-- Towards greater columns. -/
def east : Direction := ⟨1, 0⟩

/-- Towards smaller columns. -/
def west : Direction := ⟨-1, 0⟩

/-- Towards greater rows. -/
def south : Direction := ⟨0, 1⟩

/-- Towards smaller rows. -/
def north : Direction := ⟨0, -1⟩

instance : Inhabited Direction := ⟨east⟩

/-- A quarter turn: `(dx, dy)` becomes `(-dy, dx)`. -/
def rotated (d : Direction) : Direction :=
  ⟨-d.dy, d.dx⟩

/-- A quarter turn, unless a change of the row has no negative. -/
def checkedRotated (d : Direction) : Except Overflow Direction :=
  if d.dy = -128 then .error .negate else .ok d.rotated

/-- The four directions of travel that a run can have. -/
def IsUnit (d : Direction) : Prop :=
  d = east ∨ d = south ∨ d = west ∨ d = north

instance (d : Direction) : Decidable d.IsUnit :=
  inferInstanceAs (Decidable (_ ∨ _))

/-- A quarter turn of one of the four directions is one of the four directions. -/
theorem IsUnit.rotated {d : Direction} (h : d.IsUnit) : d.rotated.IsUnit := by
  rcases h with rfl | rfl | rfl | rfl <;> decide

/-- One of the four directions can be turned. -/
theorem IsUnit.checkedRotated {d : Direction} (h : d.IsUnit) : d.checkedRotated = .ok d.rotated := by
  rcases h with rfl | rfl | rfl | rfl <;> rfl

/-- Four quarter turns of one of the four directions give it back. -/
theorem IsUnit.rotated_four {d : Direction} (h : d.IsUnit) :
    d.rotated.rotated.rotated.rotated = d := by
  rcases h with rfl | rfl | rfl | rfl <;> decide

end Direction

end PixelMachine
