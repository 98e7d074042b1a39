import PixelMachine.Proofs.Torus

/-!
# What a successful step changes

An instruction that can be carried out leads to the one state that its rule names, and the cursor moves on
from there. What the rules leave to the grid is said here in coordinates: the cell ahead of the cursor
(`State.get?_ahead`) and the place that the cursor moves on to (`Grid.offset_coordinates`), both of them
modulo the dimensions of the grid. The main result is `Machine.step_success`.
-/

set_option autoImplicit false

namespace PixelMachine

/-- A move on the grid adds to both coordinates, modulo the dimensions. -/
theorem Grid.offset_coordinates {g : Grid} {l : Location} {d : Direction} {advance : Nat}
    (hl : g.Contains l) (hadvance : advance < 2 ^ 63) :
    ((g.offset l d advance).x : ℤ) = (l.x + d.dx.toInt * advance) % g.width ∧
      ((g.offset l d advance).y : ℤ) = (l.y + d.dy.toInt * advance) % g.height := by
  rw [offset_eq_locate hl hadvance]
  exact ⟨g.locate_x _ _, g.locate_y _ _⟩

/-- The cell ahead is one cell on in the direction of the cursor, across the edges of the grid. -/
theorem State.get?_ahead {g : Grid} {s : State} (hs : g.Contains s.location) :
    g.get? ⟨((s.location.x + s.direction.dx.toInt) % g.width).toNat,
        ((s.location.y + s.direction.dy.toInt) % g.height).toNat⟩ = some (s.ahead g) := by
  have hplace := Grid.offset_eq_locate (d := s.direction) hs (by decide : 1 < 2 ^ 63)
  have hpixel : g.get? (g.offset s.location s.direction 1) = some (s.ahead g) :=
    Grid.get?_eq_some_get (g.contains_offset _ _ _)
  rwa [hplace, Int.natCast_one, Int.mul_one, Int.mul_one] at hpixel

namespace Machine

variable {m : Machine} {i : Instruction}

/-- The law of success. An instruction that is under the cursor and does not fault leads, by its one rule, to
one state; the cell ahead that the rules speak of is the one whose coordinates are those of the cursor with
the direction added to them. The step succeeds, and from the state of the rule the cursor moves on along its
direction, by two cells if the instruction has read the cell ahead and else by one. If all places that the
machine remembers are on the grid, so that the cursor moves on from such a place, the direction is added to
its coordinates once or twice. Only a halt stops the machine. -/
theorem step_success (hrun : m.status = .running) (hcursor : m.grid.Contains m.state.location)
    (hdecode : Instruction.decode (m.grid.get m.state.location hcursor) = .ok i)
    (hok : ∀ fault, (Handler.lookup i.kind i m.state m.grid).outcome ≠ .error fault) :
    let s := m.state
    let after := m.step.machine
    let width := if i.kind = .setVar ∨ i.kind = .calculate then 2 else 1
    m.grid.get? ⟨((s.location.x + s.direction.dx.toInt) % m.grid.width).toNat,
        ((s.location.y + s.direction.dy.toInt) % m.grid.height).toNat⟩ = some (s.ahead m.grid) ∧
      ∃ t, Executes m.grid s i t ∧
        (∀ u, Executes m.grid s i u → u = t) ∧
        m.step.result = .ok () ∧
        after.grid = m.grid ∧
        after.steps = m.steps + 1 ∧
        after.status = (if i.kind = .halt then .halted else .running) ∧
        after.state = { t with location := m.grid.offset t.location t.direction width } ∧
        (s.OnGrid m.grid →
          (after.state.location.x : ℤ) =
              (t.location.x + t.direction.dx.toInt * width) % m.grid.width ∧
            (after.state.location.y : ℤ) =
              (t.location.y + t.direction.dy.toInt * width) % m.grid.height) := by
  intro s after width
  obtain ⟨control, houtcome⟩ :
      ∃ control, (Handler.lookup i.kind i m.state m.grid).outcome = .ok control := by
    cases houtcome : (Handler.lookup i.kind i m.state m.grid).outcome with
    | ok control => exact ⟨control, rfl⟩
    | error fault => exact absurd houtcome (hok fault)
  have hexec := (Handler.lookup_lawful m.state m.grid i).executes control houtcome
  have hdeed : m.deed? = some (.executed i) := by
    rw [deed?_of_running hrun hcursor,
      Deed.ofPixel_eq_executed_iff.2 ⟨Instruction.decode_eq_ok_iff.1 hdecode, _, hexec⟩]
  obtain ⟨hmachine, hresult⟩ := step_of_executed hdeed hexec
  have hafter : after = m.after i _ := hmachine
  refine ⟨State.get?_ahead hcursor, _, hexec, fun u hu => hu.unique hexec, hresult, ?_, ?_, ?_, ?_, ?_⟩
  · rw [hafter]; rfl
  · rw [hafter]; rfl
  · rw [hafter]; rfl
  · rw [hafter, Machine.after, Instruction.width_eq]
  · intro hs
    have hwidth : i.width < 2 ^ 63 := by
      rw [Instruction.width_eq]
      split <;> decide
    rw [hafter, Machine.after]
    change _ = (_ + _ * ((if i.kind = .setVar ∨ i.kind = .calculate then 2 else 1 : ℕ) : ℤ)) % _ ∧
      _ = (_ + _ * ((if i.kind = .setVar ∨ i.kind = .calculate then 2 else 1 : ℕ) : ℤ)) % _
    rw [← Instruction.width_eq]
    exact Grid.offset_coordinates (hexec.onGrid hs).cursor hwidth

/-- A machine with this instruction under its cursor, in the last cell of a row and about to cross the edge.
Registers 1 and 2 are equal, and function 5 stands in the first cell and takes its argument in register 9. -/
def atEdge (i : Instruction) : Machine where
  grid := .paint 3 2 #[⟨3, 9, 5⟩, ⟨255, 0, 0⟩, ⟨255, 0, 0⟩, ⟨9, 200, 5⟩, ⟨255, 0, 0⟩, i.toPixel]
    ⟨by decide, by decide, rfl, by decide⟩
  state :=
    { ((((State.start .empty).setRegister 1 7).setRegister 2 7).setRegister 9 77).bindFunction 5
        ⟨.origin, 9⟩ with
      location := ⟨2, 1⟩ }
  status := .running
  steps := 3

/-- Across the edge. A branch on equal registers turns the cursor south, over the lower edge. A set and a
subtraction find their operand in the first cell of the row and move on past it. A call that hands a register
to itself leaves it as it was, and goes on past the function. -/
theorem step_success_atEdge :
    ((atEdge ⟨.branch, 1, 2⟩).step.result = .ok () ∧
      (atEdge ⟨.branch, 1, 2⟩).step.machine.state.direction = ⟨0, 1⟩ ∧
      (atEdge ⟨.branch, 1, 2⟩).step.machine.state.location = ⟨2, 0⟩) ∧
    ((atEdge ⟨.setVar, 2, 4⟩).step.machine.state.register 4 = 200 ∧
      (atEdge ⟨.setVar, 2, 4⟩).step.machine.state.location = ⟨1, 1⟩) ∧
    ((atEdge ⟨.calculate, 65, 1⟩).step.machine.state.register 1 = 254 ∧
      (atEdge ⟨.calculate, 65, 1⟩).step.machine.state.location = ⟨1, 1⟩) ∧
    ((atEdge ⟨.call, 9, 5⟩).step.machine.state.register 9 = 77 ∧
      (atEdge ⟨.call, 9, 5⟩).step.machine.state.callStack = CallStack.empty.push ⟨2, 1⟩ ∧
      (atEdge ⟨.call, 9, 5⟩).step.machine.state.location = ⟨1, 0⟩) := by
  have hturn : Executes (atEdge ⟨.branch, 1, 2⟩).grid (atEdge ⟨.branch, 1, 2⟩).state
    ⟨.branch, 1, 2⟩ _ := .turn (by decide)
  have hset : Executes (atEdge ⟨.setVar, 2, 4⟩).grid (atEdge ⟨.setVar, 2, 4⟩).state
    ⟨.setVar, 2, 4⟩ _ := .setVar .green rfl
  have hsubtract : Executes (atEdge ⟨.calculate, 65, 1⟩).grid (atEdge ⟨.calculate, 65, 1⟩).state
    ⟨.calculate, 65, 1⟩ ((atEdge ⟨.calculate, 65, 1⟩).state.setRegister 1 254) :=
    .calculate .sub .red rfl rfl (by decide) (by decide)
  have hcall : Executes (atEdge ⟨.call, 9, 5⟩).grid (atEdge ⟨.call, 9, 5⟩).state ⟨.call, 9, 5⟩ _ :=
    .call ⟨.origin, 9⟩ (by decide)
  -- an instruction that has a rule does not fault
  have hrule : ∀ {k : Machine} {i : Instruction} {t : State}, Executes k.grid k.state i t →
      ∀ fault, (Handler.lookup i.kind i k.state k.grid).outcome ≠ .error fault := by
    intro k i t hexec fault hfault
    cases hexec.outcome_lookup.1.symm.trans hfault
  obtain ⟨-, t, -, ht, hresult, -, -, -, hbranched, -⟩ :=
    step_success (m := atEdge ⟨.branch, 1, 2⟩) (i := ⟨.branch, 1, 2⟩) rfl (by decide) rfl (hrule hturn)
  obtain ⟨-, u, -, hu, -, -, -, -, hcopied, -⟩ :=
    step_success (m := atEdge ⟨.setVar, 2, 4⟩) (i := ⟨.setVar, 2, 4⟩) rfl (by decide) rfl (hrule hset)
  obtain ⟨-, v, -, hv, -, -, -, -, hsubtracted, -⟩ :=
    step_success (m := atEdge ⟨.calculate, 65, 1⟩) (i := ⟨.calculate, 65, 1⟩) rfl (by decide) rfl
      (hrule hsubtract)
  obtain ⟨-, w, -, hw, -, -, -, -, hcalled, -⟩ :=
    step_success (m := atEdge ⟨.call, 9, 5⟩) (i := ⟨.call, 9, 5⟩) rfl (by decide) rfl (hrule hcall)
  obtain rfl := ht _ hturn
  obtain rfl := hu _ hset
  obtain rfl := hv _ hsubtract
  obtain rfl := hw _ hcall
  rw [hbranched, hcopied, hsubtracted, hcalled]
  exact ⟨⟨hresult, by decide, by decide⟩, ⟨by decide, by decide⟩, ⟨by decide, by decide⟩,
    ⟨by decide, rfl, by decide⟩⟩

end Machine

end PixelMachine
