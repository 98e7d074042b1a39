import PixelMachine.Proofs.Torus
import Mathlib.Data.Set.Function

/-!
# Travel is translation

A move by any change of the coordinates, not only by one of the four directions, adds to them modulo the
dimensions of the grid. This holds from everywhere, also from off the grid, as long as coordinates and
advances are words of the lower half (`Grid.offset_eq_locate_of_lt`).

Everything else is addition. Moves add up because reducing coordinates between them changes nothing
(`Grid.locate_locate`), and on the grid each move is undone by subtracting what it has added
(`Grid.invOn_offset`). The main result is `Grid.offset_translation`.
-/

set_option autoImplicit false

namespace PixelMachine

/-- All changes of a coordinate but the least have a negative. -/
theorem Direction.toInt_neg_of_ne {delta : Int8} (h : delta ≠ -128) : (-delta).toInt = -delta.toInt := by
  have hlo := delta.le_toInt
  have hhi := delta.toInt_lt
  have hne : delta.toInt ≠ -128 := fun heq => h (Int8.toInt_inj.1 heq)
  rw [Int8.toInt_neg]
  apply Int.bmod_eq_of_le_mul_two
  all_goals omega

namespace Grid

variable {g : Grid} {l : Location} {d : Direction} {m n : Nat}

/-- From coordinates in the lower half of the words, a move adds to them. -/
theorem offset_eq_locate_of_lt (hx : l.x < 2 ^ 63) (hy : l.y < 2 ^ 63) (hn : n < 2 ^ 63) :
    g.offset l d n = g.locate (l.x + d.dx.toInt * n) (l.y + d.dy.toInt * n) := by
  rw [offset_eq_locate_place, place_of_lt hx, place_of_lt hy, signedWord_of_lt hn]

/-- From where whole coordinates lead, a move adds to them. -/
theorem offset_locate (x y : ℤ) (hn : n < 2 ^ 63) :
    g.offset (g.locate x y) d n = g.locate (x + d.dx.toInt * n) (y + d.dy.toInt * n) := by
  rw [offset_eq_locate (g.contains_locate x y) hn, locate_locate]

/-- Moves in one direction add up. -/
theorem offset_offset (hx : l.x < 2 ^ 63) (hy : l.y < 2 ^ 63) (h : m + n < 2 ^ 63) :
    g.offset (g.offset l d m) d n = g.offset l d (m + n) := by
  have hadd : ∀ x delta : ℤ, x + delta * m + delta * n = x + delta * (m + n : ℕ) := by
    intro x delta
    rw [Int.natCast_add, Int.mul_add, Int.add_assoc]
  rw [offset_eq_locate_of_lt hx hy (by omega : m < 2 ^ 63), offset_locate _ _ (by omega), hadd, hadd,
    offset_eq_locate_of_lt hx hy h]

/-- A move by nothing leads nowhere. -/
theorem offset_zero (hl : g.Contains l) : g.offset l d 0 = l := by
  rw [offset_eq_locate hl (by decide)]
  simp only [Int.natCast_zero, Int.mul_zero, Int.add_zero, locate_of_contains hl]

/-- A move is undone by the same move in the opposite direction. -/
theorem offset_neg (hl : g.Contains l) (hn : n < 2 ^ 63) (hdx : d.dx ≠ -128) (hdy : d.dy ≠ -128) :
    g.offset (g.offset l d n) ⟨-d.dx, -d.dy⟩ n = l := by
  have hback : ∀ x delta : ℤ, x + delta * n + -delta * n = x := by
    intro x delta
    rw [Int.neg_mul, Int.add_neg_cancel_right]
  rw [offset_eq_locate hl hn, offset_locate _ _ hn]
  simp only [Direction.toInt_neg_of_ne hdx, Direction.toInt_neg_of_ne hdy, hback, locate_of_contains hl]

/-- On the grid, a move and the subtraction of what it adds undo each other. The latter is not always a
move, for the least change of a coordinate has no negative. -/
theorem invOn_offset (g : Grid) (d : Direction) (hn : n < 2 ^ 63) :
    Set.InvOn (fun l => g.locate (l.x - d.dx.toInt * n) (l.y - d.dy.toInt * n))
      (fun l => g.offset l d n) {l | g.Contains l} {l | g.Contains l} := by
  constructor
  · intro l hl
    simp only [offset_eq_locate hl hn, Int.sub_eq_add_neg, locate_locate, Int.add_neg_cancel_right,
      locate_of_contains hl]
  · intro l hl
    simp only [offset_locate _ _ hn, Int.sub_add_cancel, locate_of_contains hl]

/-- A move permutes the places on the grid. -/
theorem bijOn_offset (g : Grid) (d : Direction) (hn : n < 2 ^ 63) :
    Set.BijOn (fun l => g.offset l d n) {l | g.Contains l} {l | g.Contains l} := by
  apply (invOn_offset g d hn).bijOn
  · intro l hl
    exact g.contains_offset l d n
  · intro l hl
    exact g.contains_locate _ _

/-- Travel is translation on the torus. From any place, in any direction and by any advance, a move leads to
the place whose coordinates are the sums modulo the dimensions of the grid; and machine words lead there, as
long as they do not overflow on the way. So moves in one direction add up. On the grid, a move by nothing
leads nowhere, a move is undone by the same move in the opposite direction, if there is one, and every move
permutes the places. Coordinates and advances are words of the lower half, which mean the same with and
without a sign. -/
theorem offset_translation (g : Grid) (d : Direction) :
    (∀ l n, l.x < 2 ^ 63 → l.y < 2 ^ 63 → n < 2 ^ 63 →
      ((g.offset l d n).x : ℤ) = (l.x + d.dx.toInt * n) % g.width ∧
      ((g.offset l d n).y : ℤ) = (l.y + d.dy.toInt * n) % g.height ∧
      g.Contains (g.offset l d n) ∧
      (g.TravelFits l d n → g.checkedOffset l d n = .ok (g.offset l d n))) ∧
    (∀ l m n, l.x < 2 ^ 63 → l.y < 2 ^ 63 → m + n < 2 ^ 63 →
      g.offset (g.offset l d m) d n = g.offset l d (m + n)) ∧
    (∀ l, g.Contains l → g.offset l d 0 = l) ∧
    (∀ l n, g.Contains l → n < 2 ^ 63 → d.dx ≠ -128 → d.dy ≠ -128 →
      g.offset (g.offset l d n) ⟨-d.dx, -d.dy⟩ n = l) ∧
    ∀ n < 2 ^ 63, Set.BijOn (fun l => g.offset l d n) {l | g.Contains l} {l | g.Contains l} := by
  refine ⟨?_, ?_, ?_, ?_, ?_⟩
  · intro l n hx hy hn
    have hoffset : g.offset l d n = g.locate _ _ := offset_eq_locate_of_lt hx hy hn
    refine ⟨?_, ?_, g.contains_offset l d n, fun hfits => hfits.checkedOffset_eq hx hy hn⟩
    · rw [hoffset, locate_x]
    · rw [hoffset, locate_y]
  · intro l m n hx hy h
    exact offset_offset hx hy h
  · intro l hl
    exact offset_zero hl
  · intro l n hl hn hdx hdy
    exact offset_neg hl hn hdx hdy
  · intro n hn
    exact bijOn_offset g d hn

/-- Four moves on three columns and two rows, by more than either has: they start off the grid, they can be
made one after three, and on the grid they can be taken back. -/
theorem offset_translation_far :
    let g := Machine.corner
    let d : Direction := ⟨-7, 100⟩
    g.checkedOffset ⟨10, 5⟩ d 4 = .ok ⟨0, 1⟩ ∧
      g.offset (g.offset ⟨10, 5⟩ d 3) d 1 = ⟨0, 1⟩ ∧
      g.offset ⟨2, 1⟩ d 0 = ⟨2, 1⟩ ∧
      g.offset (g.offset ⟨2, 1⟩ d 4) ⟨7, -100⟩ 4 = ⟨2, 1⟩ ∧
      Set.BijOn (fun l => g.offset l d 4) {l | g.Contains l} {l | g.Contains l} := by
  intro g d
  obtain ⟨hmove, hadd, hzero, hneg, hbij⟩ := offset_translation g d
  have hplace : g.offset ⟨10, 5⟩ d 4 = ⟨0, 1⟩ := by decide
  have hfits : g.TravelFits ⟨10, 5⟩ d 4 :=
    ⟨⟨by decide, by decide, by decide⟩, ⟨by decide, by decide, by decide⟩⟩
  obtain ⟨-, -, -, hchecked⟩ := hmove ⟨10, 5⟩ 4 (by decide) (by decide) (by decide)
  refine ⟨(hchecked hfits).trans (congrArg _ hplace), ?_, hzero _ (by decide), ?_, hbij 4 (by decide)⟩
  · exact (hadd ⟨10, 5⟩ 3 1 (by decide) (by decide) (by decide)).trans hplace
  · exact hneg ⟨2, 1⟩ 4 (by decide) (by decide) (by decide) (by decide)

end Grid

end PixelMachine
