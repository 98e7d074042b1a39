import PixelMachine.Proofs.History
import Mathlib.Algebra.Group.Int.Defs
import Mathlib.Algebra.Group.Nat.Defs

/-!
# What a machine remembers of its grid

A machine remembers places: its cursor, its functions, its pending handler, and the calls in progress. They
flow into each other, for a call takes the cursor to a function's place and a return takes it back to a
call's, so no one of them can be known to be right without the others. `State.Placed` says of all of them
together that they are on the grid, and of those that an instruction has written down, that the
instruction still stands there.

Every rule of execution keeps this (`Executes.placed`), and so does every step, whichever way it goes
(`Machine.placed_step`). So it holds after every history, and with it all that a machine reads is there to be
read, without an overflow on the way (`Machine.placed_performAll`).
-/

set_option autoImplicit false

namespace PixelMachine

/-! ## Arithmetic on small grids -/

/-- The signed words are the numbers from `-2 ^ 63` to `2 ^ 63 - 1`. -/
theorem isSignedWord_iff {n : ℤ} : IsSignedWord n ↔ -2 ^ 63 ≤ n ∧ n ≤ 2 ^ 63 - 1 :=
  Iff.rfl

/-- A word of the lower half stands for itself. -/
theorem Grid.signedWord_of_lt {n : Nat} (h : n < 2 ^ 63) : Grid.signedWord n = n := by
  have hsize : UInt64.size = 2 ^ 64 := rfl
  unfold Grid.signedWord
  exact Int.bmod_eq_of_le_mul_two (by omega) (by omega)

/-- Adding the length of the axis to every move changes nothing. -/
theorem Grid.wrap_eq_place_emod {len : Nat} (hlen : 0 < len) (coordinate : Nat) (delta : Int8)
    (advance : Nat) :
    (Grid.wrap len coordinate delta advance : ℤ) =
      (Grid.place len coordinate + delta.toInt * Grid.signedWord advance) % len := by
  have hmoved : Grid.place len coordinate + (len + delta.toInt) * Grid.signedWord advance =
      Grid.place len coordinate + delta.toInt * Grid.signedWord advance +
        len * Grid.signedWord advance := by
    rw [Int.add_mul]
    omega
  have hnonneg := Int.emod_nonneg
    (Grid.place len coordinate + delta.toInt * Grid.signedWord advance) (b := len) (by omega)
  unfold Grid.wrap
  rw [hmoved, Int.add_mul_emod_self_left, Int.toNat_of_nonneg hnonneg]

/-- A move on an axis is a sum modulo the length of the axis. -/
theorem Grid.wrap_eq_emod {len coordinate advance : Nat} (delta : Int8) (hcoordinate : coordinate < len)
    (hadvance : advance < 2 ^ 63) :
    (Grid.wrap len coordinate delta advance : ℤ) = (coordinate + delta.toInt * advance) % len := by
  have hword : Grid.signedWord advance = advance := Grid.signedWord_of_lt hadvance
  have hplace : Grid.place len coordinate = coordinate := if_pos hcoordinate
  rw [Grid.wrap_eq_place_emod (by omega), hplace, hword]

/-- Each number on the way of a move on an axis is a signed word. -/
structure Grid.MoveFits (len coordinate : Nat) (delta : Int8) (advance : Nat) : Prop where
  biased : IsSignedWord (len + delta.toInt)
  scaled : IsSignedWord ((len + delta.toInt) * advance)
  moved : IsSignedWord (coordinate + (len + delta.toInt) * advance)

/-- A coordinate in the lower half of the words counts as it is. -/
theorem Grid.place_of_lt {len coordinate : Nat} (h : coordinate < 2 ^ 63) :
    Grid.place len coordinate = coordinate := by
  unfold Grid.place
  split
  · rfl
  · exact Grid.signedWord_of_lt h

/-- A move on an axis that fits is the one that is made with checks. -/
theorem Grid.MoveFits.checkedWrap_eq {len coordinate advance : Nat} {delta : Int8}
    (h : Grid.MoveFits len coordinate delta advance) (hcoordinate : coordinate < 2 ^ 63)
    (hadvance : advance < 2 ^ 63) :
    Grid.checkedWrap len coordinate delta advance =
      .ok (Grid.wrap len coordinate delta advance) := by
  unfold Grid.checkedWrap
  simp only [Grid.signedWord_of_lt hadvance, Grid.place_of_lt hcoordinate]
  rw [if_neg (not_not_intro h.scaled), if_neg (not_not_intro h.moved)]

/-- On an axis that is at most a third of the signed words long, a move by one or two cells does not
overflow. -/
theorem Grid.moveFits_of_le {len coordinate advance : Nat} {delta : Int8}
    (hlen : 3 * len ≤ 2 ^ 63 - 1) (hcoordinate : coordinate < len)
    (hlo : -1 ≤ delta.toInt) (hhi : delta.toInt ≤ 1) (hadvance : advance ≤ 2) :
    Grid.MoveFits len coordinate delta advance := by
  have hscaled : 0 ≤ (len + delta.toInt) * (advance : ℤ) ∧
      (len + delta.toInt) * (advance : ℤ) ≤ 2 * (len + 1) := by
    -- the product is linear for each of the three advances
    obtain rfl | rfl | rfl : advance = 0 ∨ advance = 1 ∨ advance = 2 := by omega
    all_goals omega
  constructor
  all_goals rw [isSignedWord_iff]
  all_goals omega

/-- The four directions change a coordinate by at most one. -/
theorem Direction.IsUnit.bounds {d : Direction} (h : d.IsUnit) :
    (-1 ≤ d.dx.toInt ∧ d.dx.toInt ≤ 1) ∧ -1 ≤ d.dy.toInt ∧ d.dy.toInt ≤ 1 := by
  rcases h with rfl | rfl | rfl | rfl <;> decide

namespace Grid

variable {g : Grid} {l : Location} {d : Direction}

/-- A grid is no wider than it has cells. -/
theorem width_le_size (g : Grid) : g.width ≤ g.cells.size := by
  rw [g.size_eq]
  exact Nat.le_mul_of_pos_right g.width g.height_pos

/-- A grid is no higher than it has cells. -/
theorem height_le_size (g : Grid) : g.height ≤ g.cells.size := by
  rw [g.size_eq]
  exact Nat.le_mul_of_pos_left g.height g.width_pos

/-- Each number on the way of a move is a signed word, on both axes. -/
structure TravelFits (g : Grid) (l : Location) (d : Direction) (advance : Nat) : Prop where
  column : MoveFits g.width l.x d.dx advance
  row : MoveFits g.height l.y d.dy advance

/-- A move that fits is the one that is made with checks. -/
theorem TravelFits.checkedOffset_eq {advance : Nat} (h : g.TravelFits l d advance)
    (hx : l.x < 2 ^ 63) (hy : l.y < 2 ^ 63) (hadvance : advance < 2 ^ 63) :
    g.checkedOffset l d advance = .ok (g.offset l d advance) := by
  unfold checkedOffset
  rw [h.column.checkedWrap_eq hx hadvance, h.row.checkedWrap_eq hy hadvance]
  rfl

/-- On a grid with no more than a third as many cells as signed words, moves by one or two cells fit. -/
theorem travelFits_of_unit {advance : Nat} (hcells : 3 * g.cells.size ≤ 2 ^ 63 - 1)
    (hl : g.Contains l) (hd : d.IsUnit) (hadvance : advance ≤ 2) : g.TravelFits l d advance := by
  have hwidth := g.width_le_size
  have hheight := g.height_le_size
  obtain ⟨⟨hxlo, hxhi⟩, hylo, hyhi⟩ := hd.bounds
  constructor
  · exact moveFits_of_le (by omega) hl.1 hxlo hxhi hadvance
  · exact moveFits_of_le (by omega) hl.2 hylo hyhi hadvance

/-- From a place on a grid that fits in memory, the way by one or two cells does not overflow. -/
theorem checkedOffset_eq_ok {advance : Nat} (hcells : 3 * g.cells.size ≤ 2 ^ 63 - 1)
    (hl : g.Contains l) (hd : d.IsUnit) (hadvance : advance ≤ 2) :
    g.checkedOffset l d advance = .ok (g.offset l d advance) := by
  have hwidth := g.width_le_size
  have hheight := g.height_le_size
  obtain ⟨hx, hy⟩ := hl
  have hfits := travelFits_of_unit hcells ⟨hx, hy⟩ hd hadvance
  exact hfits.checkedOffset_eq (by omega) (by omega) (by omega)

/-- The place of a cell among the cells is found without overflow. -/
theorem checkedIndex_eq_ok (hl : g.Contains l) : g.checkedIndex l = .ok (g.index l) := by
  have hlt := index_lt_size hl
  have hsize := g.size_lt
  rw [← g.size_eq] at hsize
  have hle : l.y * g.width ≤ g.index l := Nat.le_add_right _ _
  unfold checkedIndex IsWord
  rw [if_neg (by omega), if_neg (by omega)]

end Grid

/-- An instruction overflows nowhere but on the way to the next cell and in a turn. -/
theorem Handler.overflow?_eq_none {s : State} {g : Grid} {l : Location} {d : Direction}
    (i : Instruction) (hahead : g.checkedOffset s.location s.direction 1 = .ok l)
    (hturn : s.direction.checkedRotated = .ok d) : Handler.overflow? i s g = none := by
  simp only [Handler.overflow?, hahead, hturn, Except.map, ite_self]
  cases i.kind <;> rfl

/-! ## Places that a state remembers -/

/-- All that a state remembers of a grid is so. -/
structure State.Placed (s : State) (g : Grid) : Prop where
  /-- The cursor is on the grid. -/
  cursor : g.Contains s.location
  /-- The cursor travels east, south, west or north. -/
  direction : s.direction.IsUnit
  /-- A bound function is on the grid, and there stands the definition of this function with this
  parameter. -/
  functions : ∀ id slot, s.function? id = some slot →
    ∃ h : g.Contains slot.location, g.get slot.location h = ⟨3, slot.param, id⟩
  /-- A pending handler is on the grid, and there stands a try with this register. -/
  tryHandler : ∀ handler, s.tryHandler = some handler →
    ∃ h : g.Contains handler.location,
      (g.get handler.location h).red = 4 ∧ (g.get handler.location h).blue = handler.dest
  /-- A call in progress is on the grid, and there stands a call of a function that is bound. -/
  calls : ∀ l ∈ s.callStack.calls,
    ∃ h : g.Contains l, (g.get l h).red = 10 ∧ (s.function? (g.get l h).blue).isSome
  /-- No more of the input is read than there is. -/
  input : s.input.position ≤ s.input.codes.size

namespace State.Placed

variable {s : State} {g : Grid}

/-- A run starts with its cursor on the grid and nothing else to remember. -/
theorem start {input : Input} (h : input.position ≤ input.codes.size) :
    (State.start input).Placed g where
  cursor := ⟨g.width_pos, g.height_pos⟩
  direction := .inl rfl
  functions id slot hslot := by
    rw [function?, State.start, ByteTable.get_fill] at hslot
    cases hslot
  tryHandler handler hhandler := by cases hhandler
  calls l hl := by
    rw [State.start, CallStack.calls_empty] at hl
    cases hl
  input := h

/-- Registers are no places. -/
theorem setRegister (h : s.Placed g) (r value : UInt8) : (s.setRegister r value).Placed g :=
  ⟨h.cursor, h.direction, h.functions, h.tryHandler, h.calls, h.input⟩

/-- The cursor may stand anywhere on the grid. -/
theorem moved (h : s.Placed g) {l : Location} (hl : g.Contains l) :
    { s with location := l }.Placed g :=
  ⟨hl, h.direction, h.functions, h.tryHandler, h.calls, h.input⟩

/-- A definition under the cursor can be bound to the cursor's place. -/
theorem bindFunction (h : s.Placed g) {param id : UInt8}
    (hpixel : g.get s.location h.cursor = ⟨3, param, id⟩) :
    (s.bindFunction id ⟨s.location, param⟩).Placed g where
  cursor := h.cursor
  direction := h.direction
  functions j slot hslot := by
    rw [function?_bindFunction] at hslot
    split at hslot
    · next hj =>
      subst hj
      cases hslot
      exact ⟨h.cursor, hpixel⟩
    · exact h.functions j slot hslot
  tryHandler := h.tryHandler
  calls l hl := by
    -- binding a function anew leaves bound what the calls in progress have called
    obtain ⟨hcontains, hred, hbound⟩ := h.calls l hl
    refine ⟨hcontains, hred, ?_⟩
    rw [function?_bindFunction]
    split
    · rfl
    · exact hbound
  input := h.input

end State.Placed

/-! ## Placement is kept -/

/-- Executing the instruction under the cursor keeps what a state remembers of the grid. -/
theorem Executes.placed {g : Grid} {s t : State} {i : Instruction} (h : Executes g s i t)
    (hs : s.Placed g) (hpixel : g.get s.location hs.cursor = i.toPixel) : t.Placed g := by
  cases h with
  | halt green blue => exact hs
  | setVar c hchannel => exact hs.setRegister _ _
  | calculate op c hop hchannel hdiv hvalue => exact hs.setRegister _ _
  | defineFunction green blue => exact hs.bindFunction hpixel
  | defineTry green blue =>
    refine ⟨hs.cursor, hs.direction, hs.functions, ?_, hs.calls, hs.input⟩
    intro handler hhandler
    cases hhandler
    refine ⟨hs.cursor, ?_⟩
    rw [hpixel]
    exact ⟨rfl, rfl⟩
  | ret caller rest hcalls =>
    obtain ⟨hcontains, -⟩ := hs.calls caller (by rw [hcalls]; exact List.mem_cons_self)
    refine ⟨hcontains, hs.direction, hs.functions, hs.tryHandler, ?_, hs.input⟩
    intro l hl
    exact hs.calls l (by rw [hcalls]; exact List.mem_cons_of_mem caller hl)
  | turn heq =>
    exact ⟨hs.cursor, hs.direction.rotated, hs.functions, hs.tryHandler, hs.calls, hs.input⟩
  | pass hne => exact hs
  | output hprint =>
    exact ⟨hs.cursor, hs.direction, hs.functions, hs.tryHandler, hs.calls, hs.input⟩
  | input code hcode =>
    obtain ⟨hlt, -⟩ := Array.getElem?_eq_some_iff.1 hcode
    exact ⟨hs.cursor, hs.direction, hs.functions, hs.tryHandler, hs.calls, hlt⟩
  | @call green blue slot hslot =>
    obtain ⟨hcontains, -⟩ := hs.functions blue slot hslot
    refine ⟨hcontains, hs.direction, hs.functions, hs.tryHandler, ?_, hs.input⟩
    intro l hl
    rcases List.mem_cons.1 hl with rfl | hl
    · refine ⟨hs.cursor, ?_⟩
      rw [hpixel]
      exact ⟨rfl, Option.isSome_iff_exists.2 ⟨slot, hslot⟩⟩
    · exact hs.calls l hl
  | nop green blue => exact hs

namespace Machine

variable {m : Machine}

/-- A step keeps what a machine remembers of its grid, whichever way it goes. -/
theorem placed_step (m : Machine) (hm : m.state.Placed m.grid) :
    m.step.machine.state.Placed m.step.machine.grid := by
  rcases step_cases m with ⟨-, h⟩ | ⟨i, t, hdeed, hexec, h, -⟩ | ⟨fault, handler, -, htry, h, -⟩ |
    ⟨fault, -, -, h, -⟩
  · rw [h]
    exact hm
  · have hget := (executes_of_deed? hdeed).1
    rw [Grid.get?_eq_some_get hm.cursor] at hget
    have ht := hexec.placed hm (Option.some.inj hget)
    rw [h]
    exact ht.moved (m.grid.contains_offset _ _ _)
  · have hm' : { m.state with tryHandler := none }.Placed m.grid :=
      ⟨hm.cursor, hm.direction, hm.functions, nofun, hm.calls, hm.input⟩
    rw [h]
    exact (hm'.setRegister handler.dest fault.code).moved (m.grid.contains_offset _ _ _)
  · rw [h]
    exact hm

/-- A reset machine remembers nothing of its grid. -/
theorem placed_reset (m : Machine) : m.reset.state.Placed m.reset.grid :=
  .start (Nat.zero_le _)

/-- A started machine remembers nothing of its grid. -/
theorem placed_run (m : Machine) : m.run.state.Placed m.run.grid :=
  .start (Nat.zero_le _)

/-- Everything that a run remembers of the grid is so. -/
theorem placed_run_stepN (m : Machine) (n : Nat) :
    (m.run.stepN n).state.Placed (m.run.stepN n).grid :=
  stepN_induction (P := fun k => k.state.Placed k.grid) placed_step m.placed_run n

/-- On the grid, a step never fails to find its pixel. -/
theorem step_ne_offGrid (hm : m.state.Placed m.grid) (cells index : Nat) :
    m.step.result ≠ .error (.offGrid cells index) := by
  intro herror
  by_cases hrun : m.status = .running
  · -- with the cursor on the grid there is something to do, and whatever it is reports no such error
    have hdeed := deed?_of_running hrun hm.cursor
    rcases step_cases m with ⟨h, -⟩ | ⟨i, t, -, -, -, h⟩ | ⟨fault, handler, -, -, -, h⟩ |
      ⟨fault, -, -, -, h⟩
    · cases hdeed.symm.trans h
    all_goals cases h.symm.trans herror
  · rw [step_of_not_running hrun] at herror
    cases herror

/-- All that the next step reads is on the grid, and on the way there nothing overflows. -/
structure ReadsInRange (m : Machine) : Prop where
  /-- The place of the next pixel among the cells is found, -/
  fetch : m.grid.checkedIndex m.state.location = .ok (m.grid.index m.state.location)
  /-- and there is a cell. -/
  fetch_lt : m.grid.index m.state.location < m.grid.cells.size
  /-- The next place along the direction is found, -/
  ahead : m.grid.checkedOffset m.state.location m.state.direction 1 =
    .ok (m.grid.offset m.state.location m.state.direction 1)
  /-- and its place among the cells, -/
  ahead_index : m.grid.checkedIndex (m.grid.offset m.state.location m.state.direction 1) =
    .ok (m.grid.index (m.grid.offset m.state.location m.state.direction 1))
  /-- and there is a cell. -/
  ahead_lt : m.grid.index (m.grid.offset m.state.location m.state.direction 1) <
    m.grid.cells.size
  /-- No handler overflows, whatever the instruction. -/
  handlers : ∀ i, Handler.overflow? i m.state m.grid = none

/-- On a grid that fits in memory, a machine reads in range. -/
theorem readsInRange (hm : m.state.Placed m.grid) (hcells : 3 * m.grid.cells.size ≤ 2 ^ 63 - 1) :
    m.ReadsInRange := by
  have hcontains := m.grid.contains_offset m.state.location m.state.direction 1
  have hahead := Grid.checkedOffset_eq_ok hcells hm.cursor hm.direction (by decide : 1 ≤ 2)
  refine ⟨Grid.checkedIndex_eq_ok hm.cursor, Grid.index_lt_size hm.cursor, hahead,
    Grid.checkedIndex_eq_ok hcontains, Grid.index_lt_size hcontains, ?_⟩
  intro i
  exact Handler.overflow?_eq_none i hahead hm.direction.checkedRotated

/-- What a machine remembers of its grid is so after every history, from the making of the machine on: the
cursor, the functions, the handler and the calls are where their instructions stand, and the input is not
read past its end. So whatever the machine reads next is there, and no step and no drive runs off the
grid. -/
theorem placed_performAll (g : Grid) (input : Input) (hcells : 3 * g.cells.size ≤ 2 ^ 63 - 1)
    (hinput : input.position ≤ input.codes.size) (operations : List Operation) (m : Machine)
    (h : (Machine.new g input).performAll operations = some m) :
    m.grid = g ∧ m.state.Placed g ∧ m.ReadsInRange ∧
      (∀ cells index, m.step.result ≠ .error (.offGrid cells index)) ∧
      ∀ limit d, m.drive limit = some d →
        ∀ cells index, d.result ≠ .error (.step (.offGrid cells index)) := by
  have hgrid : m.grid = g := grid_performAll h
  have hm : m.state.Placed m.grid :=
    performAll_induction (P := fun k => k.state.Placed k.grid) (fun k _ => k.placed_run)
      (fun k _ => k.placed_reset) placed_step (.start hinput) h
  refine ⟨hgrid, hgrid ▸ hm, readsInRange hm (by rw [hgrid]; exact hcells), step_ne_offGrid hm, ?_⟩
  intro limit d hd cells index herror
  obtain ⟨k, hk⟩ := drive_error hd herror
  exact step_ne_offGrid (m.placed_run_stepN k) cells index hk

/-- A column of cells that calls its own first definition and tries the call again. -/
def recursiveColumn : Grid :=
  .paint 1 4 #[⟨6, 0, 0⟩, ⟨3, 1, 2⟩, ⟨4, 0, 9⟩, ⟨10, 0, 2⟩] (by decide)

/-- The column, with one code of its input read, after a history with every kind of operation. -/
theorem placed_recursiveColumn :
    ∃ m, (Machine.new recursiveColumn ⟨#[65, 66], 1⟩).performAll
        [.command .step, .command .run, .command .step, .command .step, .command .step, .command .reset,
          .drive 9, .command .step] = some m ∧
      m.state.Placed recursiveColumn ∧ m.ReadsInRange := by
  obtain ⟨m, hm⟩ := (Machine.new recursiveColumn ⟨#[65, 66], 1⟩).exists_performAll
    [.command .step, .command .run, .command .step, .command .step, .command .step, .command .reset,
      .drive 9, .command .step] (by decide)
  obtain ⟨-, hplaced, hreads, -⟩ :=
    placed_performAll recursiveColumn ⟨#[65, 66], 1⟩ (by decide) (by decide) _ m hm
  exact ⟨m, hm, hplaced, hreads⟩

end Machine

end PixelMachine
