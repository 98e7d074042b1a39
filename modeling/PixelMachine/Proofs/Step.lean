import PixelMachine.Machine
import PixelMachine.Proofs.Execution

/-!
# What a step does

A running machine executes the instruction under its cursor or raises a fault; `Machine.deed?` says
which. There are three machines that this can lead to: the machine after an instruction
(`Machine.after`), the machine that its pending handler took a fault of (`Machine.recover`), and the
machine that a fault stopped (`Machine.fail`). Each is written out field by field, so what a step leaves
alone can be read off.

`Machine.step_cases` is the only place where a step is opened: all that is known of steps, and so of
runs, follows from it. Where a fault goes is said for itself at the end (`Machine.step_fault`).
-/

set_option autoImplicit false

namespace PixelMachine

/-! ## Deeds -/

/-- What a running machine does with the pixel under its cursor. -/
inductive Deed where
  /-- It executes the instruction that the pixel stands for. -/
  | executed (i : Instruction)
  /-- It raises a fault: the pixel is no instruction, or its instruction cannot be carried out. -/
  | raised (fault : Fault)
  deriving DecidableEq

namespace Deed

/-- What a pixel makes of a state on a grid. -/
def ofPixel (p : Pixel) (s : State) (g : Grid) : Deed :=
  match Instruction.decode p with
  | .error fault => .raised fault
  | .ok i =>
    match (Handler.lookup i.kind i s g).outcome with
    | .ok _ => .executed i
    | .error fault => .raised fault

variable {p : Pixel} {s : State} {g : Grid}

/-- An instruction is executed exactly if the pixel is its own and there is a rule for it. -/
theorem ofPixel_eq_executed_iff {i : Instruction} :
    ofPixel p s g = .executed i ↔ p = i.toPixel ∧ ∃ t, Executes g s i t := by
  constructor
  · intro h
    unfold ofPixel at h
    split at h
    · cases h
    · next j hdecode =>
      split at h
      · next control hok =>
        cases h
        have hexec := (Handler.lookup_lawful s g i).executes control hok
        exact ⟨Instruction.decode_eq_ok_iff.1 hdecode, _, hexec⟩
      · cases h
  · rintro ⟨rfl, t, hexec⟩
    have hok := hexec.outcome_lookup.1
    simp only [ofPixel, Instruction.decode_toPixel, hok]

/-- A fault is raised exactly if reading the pixel raises it or the handler of its instruction does. -/
theorem ofPixel_eq_raised_iff {fault : Fault} :
    ofPixel p s g = .raised fault ↔
      Instruction.decode p = .error fault ∨
        ∃ i, Instruction.decode p = .ok i ∧
          (Handler.lookup i.kind i s g).outcome = .error fault := by
  unfold ofPixel
  cases hdecode : Instruction.decode p with
  | error other => simp
  | ok i =>
    cases houtcome : (Handler.lookup i.kind i s g).outcome with
    | error other => simp [houtcome]
    | ok control => simp [houtcome]

end Deed

/-- The grid with these dimensions and these pixels, row after row, if they make one. -/
def Grid.paint (width height : Nat) (cells : Array Pixel)
    (h : 0 < width ∧ 0 < height ∧ cells.size = width * height ∧ width * height < UInt64.size) : Grid :=
  ⟨width, height, cells, h.1, h.2.1, h.2.2.1, h.2.2.2⟩

/-- An instruction that reads the cell ahead takes up two cells, and any other takes up one. -/
theorem Instruction.width_eq (i : Instruction) :
    i.width = if i.kind = .setVar ∨ i.kind = .calculate then 2 else 1 := by
  rw [width]
  cases i.kind <;> rfl

namespace Machine

/-- What the next step of a machine does. It does nothing if the machine is not running, and in no run
does the cursor leave the grid. -/
def deed? (m : Machine) : Option Deed :=
  if m.status = .running then
    (m.grid.get? m.state.location).map fun p => Deed.ofPixel p m.state m.grid
  else none

variable {m : Machine} {i : Instruction} {fault : Fault}

/-- Only a running machine does anything. -/
theorem status_of_deed? {d : Deed} (h : m.deed? = some d) : m.status = .running := by
  unfold deed? at h
  split at h
  · assumption
  · cases h

/-- What a running machine does is a matter of the pixel under its cursor. -/
theorem deed?_of_get? {p : Pixel} (hrun : m.status = .running)
    (hp : m.grid.get? m.state.location = some p) :
    m.deed? = some (Deed.ofPixel p m.state m.grid) := by
  rw [deed?, if_pos hrun, hp, Option.map_some]

/-- On the grid there is such a pixel. -/
theorem deed?_of_running (hrun : m.status = .running) (hcursor : m.grid.Contains m.state.location) :
    m.deed? = some (Deed.ofPixel (m.grid.get m.state.location hcursor) m.state m.grid) :=
  deed?_of_get? hrun (Grid.get?_eq_some_get hcursor)

/-- An executed instruction stands under the cursor, and there is a rule for it. -/
theorem executes_of_deed? (h : m.deed? = some (.executed i)) :
    m.grid.get? m.state.location = some i.toPixel ∧ ∃ t, Executes m.grid m.state i t := by
  rw [deed?, if_pos (status_of_deed? h)] at h
  obtain ⟨p, hp, hdeed⟩ := Option.map_eq_some_iff.1 h
  obtain ⟨rfl, hexec⟩ := Deed.ofPixel_eq_executed_iff.1 hdeed
  exact ⟨hp, hexec⟩

/-! ## Machines after a step -/

/-- The machine after an instruction that led to a state: the cursor moves on from there, past the cell
that the instruction read, and a halt stops the machine. -/
def after (m : Machine) (i : Instruction) (t : State) : Machine where
  grid := m.grid
  state := { t with location := m.grid.offset t.location t.direction i.width }
  status := if i.kind = .halt then .halted else .running
  steps := m.steps + 1

/-- The machine after its handler took a fault: the cursor is one cell past the handler's place, and
nothing is pending any more. -/
def recover (m : Machine) (fault : Fault) (handler : TryHandler) : Machine where
  grid := m.grid
  state :=
    { m.state.setRegister handler.dest fault.code with
      location := m.grid.offset handler.location m.state.direction 1
      tryHandler := none }
  status := m.status
  steps := m.steps + 1

/-- The machine that a fault stopped: its state is as it was. -/
def fail (m : Machine) (fault : Fault) : Machine where
  grid := m.grid
  state := m.state
  status := .faulted fault.code
  steps := m.steps + 1

/-- A machine that does nothing stays as it is. -/
theorem step_of_deed?_none (h : m.deed? = none) : m.step.machine = m := by
  unfold deed? at h
  by_cases hrun : m.status = .running
  · rw [if_pos hrun, Option.map_eq_none_iff] at h
    rw [step, if_pos hrun, h]
  · rw [step_of_not_running hrun]

/-- A running machine on a pixel carries it out. -/
theorem step_of_get? {p : Pixel} (hrun : m.status = .running)
    (hp : m.grid.get? m.state.location = some p) : m.step = m.execute p := by
  rw [step, if_pos hrun, hp]

/-- An instruction that can be carried out leads to the machine after it. -/
theorem step_of_executed {t : State} (h : m.deed? = some (.executed i))
    (hexec : Executes m.grid m.state i t) :
    m.step.machine = m.after i t ∧ m.step.result = .ok () := by
  have hrun := status_of_deed? h
  obtain ⟨hok, hstate⟩ := hexec.outcome_lookup
  rw [step_of_get? hrun (executes_of_deed? h).1, execute_of_decode_ok (Instruction.decode_toPixel i)]
  by_cases hhalt : i.kind = .halt
  · simp only [hok, hstate, Control.after, if_pos hhalt]
    simp only [after, advance, if_pos hhalt, and_self]
  · simp only [hok, hstate, Control.after, if_neg hhalt]
    simp only [after, advance, if_neg hhalt, hrun, and_self]

/-- A fault is routed from the state before the step, whether it was raised on reading the pixel or by a
handler. -/
theorem step_of_raised (h : m.deed? = some (.raised fault)) :
    m.step.machine = ({ m with steps := m.steps + 1 }.raise fault m.state.location).machine ∧
      m.step.result = ({ m with steps := m.steps + 1 }.raise fault m.state.location).result := by
  have hrun := status_of_deed? h
  rw [deed?, if_pos hrun] at h
  obtain ⟨p, hp, hdeed⟩ := Option.map_eq_some_iff.1 h
  rw [step_of_get? hrun hp]
  rcases Deed.ofPixel_eq_raised_iff.1 hdeed with hdecode | ⟨i, hdecode, houtcome⟩
  · rw [execute_of_decode_error hdecode]
    exact ⟨rfl, rfl⟩
  · have hstate := (Handler.lookup_lawful m.state m.grid i).state_eq fault houtcome
    rw [execute_of_decode_ok hdecode]
    simp only [houtcome, hstate, and_self]

/-- A fault that a handler is pending for is recovered from. -/
theorem step_of_recovered {handler : TryHandler} (h : m.deed? = some (.raised fault))
    (htry : m.state.tryHandler = some handler) :
    m.step.machine = m.recover fault handler ∧ m.step.result = .ok () := by
  obtain ⟨hmachine, hresult⟩ := step_of_raised h
  simp only [raise, htry] at hmachine hresult
  exact ⟨hmachine, hresult⟩

/-- A fault that no handler is pending for stops the machine. -/
theorem step_of_uncaught (h : m.deed? = some (.raised fault)) (htry : m.state.tryHandler = none) :
    m.step.machine = m.fail fault ∧
      m.step.result = .error (.uncaught fault.code fault m.state.location) := by
  obtain ⟨hmachine, hresult⟩ := step_of_raised h
  simp only [raise, htry] at hmachine hresult
  exact ⟨hmachine, hresult⟩

/-- A step does nothing, executes an instruction, recovers from a fault, or fails with one. -/
theorem step_cases (m : Machine) :
    (m.deed? = none ∧ m.step.machine = m) ∨
    (∃ i t, m.deed? = some (.executed i) ∧ Executes m.grid m.state i t ∧
      m.step.machine = m.after i t ∧ m.step.result = .ok ()) ∨
    (∃ fault handler, m.deed? = some (.raised fault) ∧ m.state.tryHandler = some handler ∧
      m.step.machine = m.recover fault handler ∧ m.step.result = .ok ()) ∨
    (∃ fault, m.deed? = some (.raised fault) ∧ m.state.tryHandler = none ∧
      m.step.machine = m.fail fault ∧
      m.step.result = .error (.uncaught fault.code fault m.state.location)) := by
  cases hdeed : m.deed? with
  | none => exact .inl ⟨rfl, step_of_deed?_none hdeed⟩
  | some d =>
    right
    cases d with
    | executed i =>
      obtain ⟨t, hexec⟩ := (executes_of_deed? hdeed).2
      exact .inl ⟨i, t, rfl, hexec, step_of_executed hdeed hexec⟩
    | raised fault =>
      right
      cases htry : m.state.tryHandler with
      | some handler => exact .inl ⟨fault, handler, rfl, rfl, step_of_recovered hdeed htry⟩
      | none => exact .inr ⟨fault, rfl, rfl, step_of_uncaught hdeed htry⟩

/-! ## Faults -/

/-- Where a fault goes. If a handler is pending, the step succeeds and the machine goes on one cell past the
handler's place, with the code in the handler's register and nothing pending; all else is as it was. If
none is pending, the step fails with the fault and its place, and the state is as it was. -/
theorem step_fault (hrun : m.status = .running) (hcursor : m.grid.Contains m.state.location)
    (hfault : Instruction.decode (m.grid.get m.state.location hcursor) = .error fault ∨
      ∃ i, Instruction.decode (m.grid.get m.state.location hcursor) = .ok i ∧
        (Handler.lookup i.kind i m.state m.grid).outcome = .error fault) :
    (∀ handler, m.state.tryHandler = some handler →
      m.step.result = .ok () ∧
      m.step.machine.status = .running ∧
      m.step.machine.steps = m.steps + 1 ∧
      m.step.machine.state.tryHandler = none ∧
      m.step.machine.state.location = m.grid.offset handler.location m.state.direction 1 ∧
      m.step.machine.state.register handler.dest = fault.code ∧
      (∀ r, r ≠ handler.dest → m.step.machine.state.register r = m.state.register r) ∧
      m.step.machine.state.functions = m.state.functions ∧
      m.step.machine.state.callStack = m.state.callStack ∧
      m.step.machine.state.direction = m.state.direction ∧
      m.step.machine.state.input = m.state.input ∧
      m.step.machine.state.output = m.state.output ∧
      m.step.machine.grid = m.grid) ∧
    (m.state.tryHandler = none →
      m.step.result = .error (.uncaught fault.code fault m.state.location) ∧
      m.step.machine.status = .faulted fault.code ∧
      m.step.machine.steps = m.steps + 1 ∧
      m.step.machine.state = m.state ∧
      m.step.machine.grid = m.grid) := by
  have hdeed : m.deed? = some (.raised fault) := by
    rw [deed?_of_running hrun hcursor, Deed.ofPixel_eq_raised_iff.2 hfault]
  constructor
  · intro handler htry
    obtain ⟨hrecover, hresult⟩ := step_of_recovered hdeed htry
    have hregister : ∀ r, m.step.machine.state.register r =
        if handler.dest = r then fault.code else m.state.register r := by
      intro r
      rw [hrecover]
      exact State.register_setRegister m.state handler.dest r fault.code
    refine ⟨hresult, ?_, ?_, ?_, ?_, ?_, ?_, ?_, ?_, ?_, ?_, ?_, ?_⟩
    · rw [hrecover]; exact hrun
    · rw [hrecover]; rfl
    · rw [hrecover]; rfl
    · rw [hrecover]; rfl
    · rw [hregister, if_pos rfl]
    · intro r hr
      rw [hregister, if_neg (Ne.symm hr)]
    all_goals rw [hrecover]; rfl
  · intro htry
    obtain ⟨hfail, hresult⟩ := step_of_uncaught hdeed htry
    refine ⟨hresult, ?_, ?_, ?_, ?_⟩
    all_goals rw [hfail]; rfl

/-- A machine that is about to divide register 3 by the red byte of an empty cell. -/
def dividing (handler : Option TryHandler) : Machine where
  grid := .paint 4 1 #[⟨4, 0, 6⟩, ⟨2, 129, 3⟩, ⟨0, 0, 0⟩, ⟨255, 0, 0⟩] (by decide)
  state := { State.start .empty with location := ⟨1, 0⟩, tryHandler := handler }
  status := .running
  steps := 1

/-- A division by zero goes to the cell after the try, though the calculation is two cells wide, and without
the try it stops the machine. -/
theorem step_fault_division :
    ((dividing (some ⟨.origin, 6⟩)).step.result = .ok () ∧
      (dividing (some ⟨.origin, 6⟩)).step.machine.state.location = ⟨1, 0⟩ ∧
      (dividing (some ⟨.origin, 6⟩)).step.machine.state.register 6 = 1) ∧
    (dividing none).step.result = .error (.uncaught 1 (.builtin .divideByZero) ⟨1, 0⟩) := by
  have hpending : (Handler.lookup .calculate ⟨.calculate, 129, 3⟩
      (dividing (some ⟨.origin, 6⟩)).state (dividing (some ⟨.origin, 6⟩)).grid).outcome =
        .error (.builtin .divideByZero) := by
    rw [Handler.lookup_eq]
    rfl
  have hnone : (Handler.lookup .calculate ⟨.calculate, 129, 3⟩ (dividing none).state
      (dividing none).grid).outcome = .error (.builtin .divideByZero) := by
    rw [Handler.lookup_eq]
    rfl
  have hrecovered := (step_fault (m := dividing (some ⟨.origin, 6⟩)) rfl (by decide)
    (.inr ⟨⟨.calculate, 129, 3⟩, rfl, hpending⟩)).1 _ rfl
  have hfailed := (step_fault (m := dividing none) rfl (by decide)
    (.inr ⟨⟨.calculate, 129, 3⟩, rfl, hnone⟩)).2 rfl
  obtain ⟨hok, -, -, -, hlocation, hregister, -⟩ := hrecovered
  exact ⟨⟨hok, hlocation.trans (by decide), hregister⟩, hfailed.1⟩

end Machine

end PixelMachine
