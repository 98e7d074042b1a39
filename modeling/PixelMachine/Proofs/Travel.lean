import PixelMachine.Proofs.Covering

/-!
# The ways of a run

A step computes places with signed words and finds their cells with unsigned ones. `Machine.Travels` names
the moves that it makes: to the cell ahead, if its instruction reads it, and on from where the instruction
or a recovery has left the cursor. `Machine.LooksUp` names the cells that it takes a pixel from.

All of these start from places that the state remembers (`Machine.Travels.remembers`), and those are on the
grid whatever was done with the machine (`Machine.onGrid_performAll`). On a grid that fits in memory this is
all that it takes for the arithmetic of a move (`Grid.inRange_of_unit`) and of an index
(`Grid.addressable_of_contains`). The main result is `Machine.travels_inRange`.
-/

set_option autoImplicit false

namespace PixelMachine

variable {g : Grid} {s : State} {l : Location} {d : Direction} {advance : Nat}

/-! ## Ranges -/

namespace Grid

/-- The arithmetic of a move is in range: on both axes, the length and the change add up to no negative
number, and each number on the way is a signed word. -/
structure InRange (g : Grid) (l : Location) (d : Direction) (advance : Nat) : Prop where
  width_nonneg : 0 ≤ (g.width : ℤ) + d.dx.toInt
  height_nonneg : 0 ≤ (g.height : ℤ) + d.dy.toInt
  fits : g.TravelFits l d advance

/-- The place of a location among the cells is the place of a cell, and a word. -/
structure Addressable (g : Grid) (l : Location) : Prop where
  lt_size : l.y * g.width + l.x < g.cells.size
  isWord : IsWord (l.y * g.width + l.x)

/-- On the grid, the arithmetic of a move by one or two cells is in range if there are no more than a third as
many cells as signed words. -/
theorem inRange_of_unit (hcells : 3 * g.cells.size ≤ 2 ^ 63 - 1) (hl : g.Contains l) (hd : d.IsUnit)
    (hadvance : advance ≤ 2) : g.InRange l d advance := by
  have hwidth := g.width_pos
  have hheight := g.height_pos
  obtain ⟨⟨hx, -⟩, hy, -⟩ := hd.bounds
  constructor
  · omega
  · omega
  · exact travelFits_of_unit hcells hl hd hadvance

/-- A place on the grid is the place of a cell. -/
theorem addressable_of_contains (hl : g.Contains l) : g.Addressable l := by
  have hlt := index_lt_size hl
  have hsize := g.size_lt
  rw [← g.size_eq] at hsize
  exact ⟨hlt, Nat.lt_trans hlt hsize⟩

end Grid

/-! ## Places that a state remembers -/

/-- The places that a state remembers. -/
inductive State.Remembers (s : State) : Location → Prop where
  | cursor : s.Remembers s.location
  | function {id : UInt8} {slot : FunctionSlot} (h : s.function? id = some slot) :
      s.Remembers slot.location
  | tryHandler {handler : TryHandler} (h : s.tryHandler = some handler) :
      s.Remembers handler.location
  | call {l : Location} (h : l ∈ s.callStack.calls) : s.Remembers l

/-- If the places of a state are on the grid, then so are all that it remembers. -/
theorem State.OnGrid.contains (hs : s.OnGrid g) (h : s.Remembers l) : g.Contains l := by
  cases h with
  | cursor => exact hs.cursor
  | function h => exact hs.functions _ _ h
  | tryHandler h => exact hs.tryHandler _ h
  | call h => exact hs.calls _ h

/-- A state at the start has only places on the grid. -/
theorem State.onGrid_start (g : Grid) (input : Input) : (State.start input).OnGrid g := by
  -- what is read of the input is no matter of the grid
  have hplaced : (State.start input.rewind).Placed g := .start (Nat.zero_le _)
  obtain ⟨hcursor, hdirection, hfunctions, htry, hcalls⟩ := hplaced.onGrid
  exact ⟨hcursor, hdirection, hfunctions, htry, hcalls⟩

/-- An instruction leaves the cursor at a place that was remembered before. -/
theorem Executes.remembers {t : State} {i : Instruction} (h : Executes g s i t) :
    s.Remembers t.location := by
  cases h with
  | ret caller rest hcalls =>
    apply State.Remembers.call
    rw [hcalls]
    exact List.mem_cons_self
  | call slot hslot => exact .function hslot
  | _ => exact .cursor

namespace Machine

variable {m : Machine}

/-- After every history, all places that a machine remembers are on its grid. -/
theorem onGrid_performAll {g : Grid} {input : Input} {operations : List Operation}
    (h : (new g input).performAll operations = some m) : m.state.OnGrid g := by
  have hgrid : m.grid = g := grid_performAll h
  have hm := performAll_induction (P := fun k => k.state.OnGrid k.grid)
    (fun k _ => State.onGrid_start k.grid k.state.input.rewind)
    (fun k _ => State.onGrid_start k.grid k.state.input.rewind) onGrid_step
    (m := new g input) (State.onGrid_start g input) h
  rwa [hgrid] at hm

/-! ## What a step does with places -/

/-- The next step moves from a place, in a direction, by an advance. -/
inductive Travels (m : Machine) : Location → Direction → Nat → Prop where
  /-- An instruction that reads the cell ahead goes there. -/
  | ahead {i : Instruction} (hrun : m.status = .running)
      (hpixel : m.grid.get? m.state.location = some i.toPixel) (hreads : i.kind.readsLookahead) :
      m.Travels m.state.location m.state.direction 1
  /-- The cursor moves on from where an instruction has left it. -/
  | onward {i : Instruction} {t : State} (hdeed : m.deed? = some (.executed i))
      (hexec : Executes m.grid m.state i t) : m.Travels t.location t.direction i.width
  /-- After a recovery it moves on from the place of the handler. -/
  | recovered {fault : Fault} {handler : TryHandler} (hdeed : m.deed? = some (.raised fault))
      (htry : m.state.tryHandler = some handler) : m.Travels handler.location m.state.direction 1

/-- The next step takes the pixel of a place. -/
inductive LooksUp (m : Machine) : Location → Prop where
  /-- The instruction is under the cursor. -/
  | cursor (hrun : m.status = .running) : m.LooksUp m.state.location
  /-- An operand is in the cell ahead. -/
  | ahead {i : Instruction} (hrun : m.status = .running)
      (hpixel : m.grid.get? m.state.location = some i.toPixel) (hreads : i.kind.readsLookahead) :
      m.LooksUp (m.grid.offset m.state.location m.state.direction 1)

/-- A step moves only from places that the machine remembers. -/
theorem Travels.remembers (h : m.Travels l d advance) : m.state.Remembers l := by
  cases h with
  | ahead hrun hpixel hreads => exact .cursor
  | onward hdeed hexec => exact hexec.remembers
  | recovered hdeed htry => exact .tryHandler htry

/-- A step moves only in the four directions. -/
theorem Travels.isUnit (hm : m.state.OnGrid m.grid) (h : m.Travels l d advance) : d.IsUnit := by
  cases h with
  | ahead hrun hpixel hreads => exact hm.direction
  | onward hdeed hexec => exact (hexec.onGrid hm).direction
  | recovered hdeed htry => exact hm.direction

/-- A step moves by one or two cells. -/
theorem Travels.advance_eq (h : m.Travels l d advance) : advance = 1 ∨ advance = 2 := by
  cases h with
  | ahead hrun hpixel hreads => exact .inl rfl
  | onward hdeed hexec =>
    unfold Instruction.width
    split
    · exact .inr rfl
    · exact .inl rfl
  | recovered hdeed htry => exact .inl rfl

/-- A step takes only pixels of the grid. -/
theorem LooksUp.contains (hm : m.state.OnGrid m.grid) (h : m.LooksUp l) : m.grid.Contains l := by
  cases h with
  | cursor hrun => exact hm.cursor
  | ahead hrun hpixel hreads => exact m.grid.contains_offset _ _ _

/-- A step that succeeds takes the cursor along one of its moves. -/
theorem exists_travels_of_step (hm : m.state.OnGrid m.grid) (hrun : m.status = .running)
    (hok : m.step.result = .ok ()) :
    ∃ l d advance, m.Travels l d advance ∧
      m.step.machine.state.location = m.grid.offset l d advance := by
  have hdeed := deed?_of_running hrun hm.cursor
  rcases step_cases m with ⟨hnone, -⟩ | ⟨i, t, hexecuted, hexec, h, -⟩ |
    ⟨fault, handler, hraised, htry, h, -⟩ | ⟨fault, -, -, -, herror⟩
  · cases hdeed.symm.trans hnone
  · exact ⟨_, _, _, .onward hexecuted hexec, by rw [h]; rfl⟩
  · exact ⟨_, _, _, .recovered hraised htry, by rw [h]; rfl⟩
  · cases hok.symm.trans herror

/-- The arithmetic of places never overflows. Take a grid that fits in memory, and a machine on it with any
history. Every move of its next step, by one or two cells from a place that it remembers, is in range, and
every cell that the step looks up has a place among the cells. More than that, all places that the machine
remembers have one, and all moves from them by one or two cells are in range, in the direction of the cursor
and after a turn. A step takes the cursor nowhere but along its moves. -/
theorem travels_inRange (g : Grid) (hcells : 3 * g.cells.size ≤ 2 ^ 63 - 1) (input : Input)
    (operations : List Operation) (m : Machine) (h : (new g input).performAll operations = some m) :
    (∀ l d advance, m.Travels l d advance →
      m.state.Remembers l ∧ (advance = 1 ∨ advance = 2) ∧ g.InRange l d advance) ∧
    (∀ l, m.LooksUp l → g.Addressable l) ∧
    (∀ l, m.state.Remembers l → g.Addressable l ∧
      ∀ d, d = m.state.direction ∨ d = m.state.direction.rotated →
        ∀ advance, advance = 1 ∨ advance = 2 →
          g.InRange l d advance ∧ g.Addressable (g.offset l d advance)) ∧
    (m.status = .running → m.step.result = .ok () →
      ∃ l d advance, m.Travels l d advance ∧
        m.step.machine.state.location = g.offset l d advance) := by
  have hgrid : m.grid = g := grid_performAll h
  have hm : m.state.OnGrid g := onGrid_performAll h
  have hm' : m.state.OnGrid m.grid := hgrid ▸ hm
  refine ⟨?_, ?_, ?_, ?_⟩
  · intro l d advance h
    have hadvance := h.advance_eq
    have hrange := Grid.inRange_of_unit hcells (hm.contains h.remembers) (h.isUnit hm')
      (by omega : advance ≤ 2)
    exact ⟨h.remembers, hadvance, hrange⟩
  · intro l h
    exact Grid.addressable_of_contains (hgrid ▸ h.contains hm')
  · intro l h
    refine ⟨Grid.addressable_of_contains (hm.contains h), ?_⟩
    intro d hd advance hadvance
    have hunit : d.IsUnit := by
      rcases hd with rfl | rfl
      · exact hm.direction
      · exact hm.direction.rotated
    constructor
    · exact Grid.inRange_of_unit hcells (hm.contains h) hunit (by omega)
    · exact Grid.addressable_of_contains (g.contains_offset l d advance)
  · intro hrun hok
    have hmove := exists_travels_of_step hm' hrun hok
    rwa [hgrid] at hmove

/-- The column of cells that calls its own definition, about to do so: the cursor moves on from the place of
the function, south since the first cell has turned it. -/
theorem travels_inRange_call :
    let m := (new recursiveColumn .empty).obeyAll [.run, .step, .step, .step]
    m.Travels ⟨0, 1⟩ m.state.direction 1 ∧
      recursiveColumn.InRange ⟨0, 1⟩ m.state.direction 1 ∧
      recursiveColumn.Addressable ⟨0, 3⟩ ∧
      ∃ l d advance, m.Travels l d advance ∧ recursiveColumn.offset l d advance = ⟨0, 2⟩ := by
  intro m
  have hdeed : m.deed? = some (.executed ⟨.call, 0, 2⟩) := by decide +kernel
  have hslot : m.state.function? 2 = some ⟨⟨0, 1⟩, 1⟩ := by decide +kernel
  have hexec : Executes m.grid m.state ⟨.call, 0, 2⟩ _ := .call _ hslot
  have hcursor : m.state.location = ⟨0, 3⟩ := by decide +kernel
  have hnext : m.step.machine.state.location = ⟨0, 2⟩ := by decide +kernel
  obtain ⟨hmoves, hcells, -, hstep⟩ := travels_inRange recursiveColumn (by decide) .empty
    _ m (performAll_map_command _ [.run, .step, .step, .step])
  have htravels : m.Travels ⟨0, 1⟩ m.state.direction 1 := .onward hdeed hexec
  have hrun := status_of_deed? hdeed
  obtain ⟨l, d, advance, h, hplace⟩ := hstep hrun (step_of_executed hdeed hexec).2
  refine ⟨htravels, (hmoves _ _ _ htravels).2.2, ?_, l, d, advance, h, ?_⟩
  · rw [← hcursor]
    exact hcells _ (.cursor hrun)
  · rw [← hplace, hnext]

end Machine

end PixelMachine
