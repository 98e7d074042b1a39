import PixelMachine.Handler

/-!
# The machine

A machine owns a grid and the state of a run on it. One step takes the pixel under the cursor, reads
it as an instruction, carries it out, and moves the cursor on along its direction, past the operand
pixel of an instruction that has one.

A fault goes to the pending try-handler: it is used up, the cursor goes to its place, and its register
receives the code of the fault, so the run continues one cell past it. If none is pending, the machine
stops with a failure, and the cursor stays where it is.
-/

set_option autoImplicit false

namespace PixelMachine

/-- Where a machine is in its life. -/
inductive Status where
  /-- Made or reset, and not started. -/
  | idle
  /-- Started, and not stopped. -/
  | running
  /-- Stopped by an instruction of the program. -/
  | halted
  /-- Stopped by a fault that nothing took. -/
  | faulted (code : UInt8)
  deriving DecidableEq

/-- Why a step failed. -/
inductive StepError where
  /-- An instruction at `location` raised a fault while no try-handler was pending. -/
  | uncaught (code : UInt8) (fault : Fault) (location : Location)
  /-- The cursor has no cell: its place among the cells is past the last of them. No run leads there. -/
  | offGrid (cells index : Nat)
  deriving DecidableEq

namespace StepError

/-- What is reported of a failed step. -/
def message : StepError → String
  | uncaught code fault location =>
    s!"uncaught Palettette error {code.toNat} ({fault.message}) at {location.text}"
  | offGrid cells index => s!"index out of bounds: the len is {cells} but the index is {index}"

/-- A failed step in full detail, with the case that it is. -/
def detail : StepError → String
  | uncaught code fault location =>
    Text.labelled "Uncaught"
      [("code", toString code.toNat), ("fault", fault.detail), ("location", location.detail)]
  | offGrid cells index =>
    Text.labelled "OffGrid" [("cells", toString cells), ("index", toString index)]

end StepError

/-- A machine: a grid with the state of a run on it. -/
@[ext] structure Machine where
  /-- The program. -/
  grid : Grid
  /-- What instructions change. -/
  state : State
  /-- Where the machine is in its life. -/
  status : Status
  /-- The number of steps since the start of the run. -/
  steps : Nat
  deriving DecidableEq

/-- What a step comes to. -/
structure Transition where
  /-- The machine after the step. -/
  machine : Machine
  /-- What there is to report, in order. -/
  events : List Event
  /-- Whether the step failed, and why. -/
  result : Except StepError Unit

namespace Machine

/-- An idle machine for a program with its input. -/
def new (grid : Grid) (input : Input) : Machine := ⟨grid, .start input, .idle, 0⟩

/-- The machine before its first run, on the same grid and input. -/
def reset (m : Machine) : Machine :=
  { m with state := m.state.reset, status := .idle, steps := 0 }

/-- The machine at the start of a run. -/
def run (m : Machine) : Machine := { m.reset with status := .running }

/-- What a reset reports. -/
def resetEvents (m : Machine) : List Event := [.reset m.grid.width m.grid.height]

/-- What the start of a run reports. -/
def runEvents (m : Machine) : List Event := m.resetEvents ++ [.running]

/-- Whether the machine was started and has not stopped. -/
def isRunning (m : Machine) : Bool := m.status = .running

/-- The machine with its cursor moved on. -/
def advance (m : Machine) (cells : Nat) : Machine :=
  { m with state := { m.state with
      location := m.grid.offset m.state.location m.state.direction cells } }

/-- Takes a fault that was raised at a place to the pending try-handler, or stops the machine. -/
def raise (m : Machine) (fault : Fault) (source : Location) : Transition :=
  match m.state.tryHandler with
  | some handler =>
    let recovered := { m.state with location := handler.location, tryHandler := none }
    ⟨{ m with state := recovered.setRegister handler.dest fault.code }.advance 1,
      [.recovered fault fault.code source handler.location handler.dest], .ok ()⟩
  | none =>
    ⟨{ m with status := .faulted fault.code }, [.uncaught fault fault.code source],
      .error (.uncaught fault.code fault source)⟩

/-- Carries out a pixel as the next instruction. -/
def execute (m : Machine) (p : Pixel) : Transition :=
  let ⟨grid, state, status, steps⟩ := m
  let source := state.location
  match Instruction.decode p with
  | .error fault => raise ⟨grid, state, status, steps + 1⟩ fault source
  | .ok i =>
    let effect := Handler.lookup i.kind i state grid
    let after : Machine := ⟨grid, effect.state, status, steps + 1⟩
    let reported := Event.execute steps source i :: effect.events
    match effect.outcome with
    | .ok .continue => ⟨after.advance i.width, reported, .ok ()⟩
    | .ok .halt =>
      ⟨{ after with status := .halted }.advance i.width,
        reported ++ [.halted source after.steps], .ok ()⟩
    | .error fault =>
      let raised := after.raise fault source
      { raised with events := reported ++ raised.events }

/-- Carries out one instruction. A machine that is not running stays as it is. -/
def step (m : Machine) : Transition :=
  if m.status = .running then
    match m.grid.get? m.state.location with
    | some p => m.execute p
    | none => ⟨m, [], .error (.offGrid m.grid.cells.size (m.grid.index m.state.location))⟩
  else ⟨m, [], .ok ()⟩

/-- The machine after a number of steps. -/
def stepN (m : Machine) : Nat → Machine
  | 0 => m
  | n + 1 => m.step.machine.stepN n

/-- A pixel that is no instruction raises its fault as a step of its own. -/
theorem execute_of_decode_error {m : Machine} {p : Pixel} {fault : Fault}
    (h : Instruction.decode p = .error fault) :
    m.execute p = { m with steps := m.steps + 1 }.raise fault m.state.location := by
  rw [execute, h]

/-- A pixel that is an instruction is carried out by the handler of its kind. -/
theorem execute_of_decode_ok {m : Machine} {p : Pixel} {i : Instruction}
    (h : Instruction.decode p = .ok i) :
    m.execute p =
      let effect := Handler.lookup i.kind i m.state m.grid
      let after := { m with state := effect.state, steps := m.steps + 1 }
      let reported := Event.execute m.steps m.state.location i :: effect.events
      match effect.outcome with
      | .ok .continue => ⟨after.advance i.width, reported, .ok ()⟩
      | .ok .halt =>
        ⟨{ after with status := .halted }.advance i.width,
          reported ++ [.halted m.state.location after.steps], .ok ()⟩
      | .error fault =>
        let raised := after.raise fault m.state.location
        { raised with events := reported ++ raised.events } := by
  rw [execute, h]

/-- A machine that is not running stays as it is. -/
theorem step_of_not_running {m : Machine} (h : m.status ≠ .running) : m.step = ⟨m, [], .ok ()⟩ :=
  if_neg h

end Machine

end PixelMachine
