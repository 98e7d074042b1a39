import PixelMachine.Machine

/-!
# Snapshots

A snapshot shows a machine at one moment. It leaves out the grid, the codes of the input and where the
calls in progress were made, and tells everything else.
-/

set_option autoImplicit false

namespace PixelMachine

/-- A function that is bound, with its number. -/
structure BoundFunction where
  /-- The number of the function. -/
  id : UInt8
  /-- What is bound to it. -/
  slot : FunctionSlot
  deriving DecidableEq

/-- A machine at one moment. -/
@[ext] structure Snapshot where
  /-- Where the machine is in its life. -/
  status : Status
  /-- The number of steps since the start of the run. -/
  steps : Nat
  /-- Where the cursor stands. -/
  location : Location
  /-- Where the cursor travels. -/
  direction : Direction
  /-- The registers, by number. -/
  registers : List UInt8
  /-- The functions that are bound, by number. -/
  functions : List BoundFunction
  /-- The pending try-handler, if there is one. -/
  tryHandler : Option TryHandler
  /-- The number of calls in progress. -/
  callDepth : Nat
  /-- The number of input bytes read. -/
  inputPosition : Nat
  /-- What was printed. -/
  output : String
  deriving DecidableEq

/-- The functions that are bound in a state, by number. -/
def State.boundFunctions (s : State) : List BoundFunction :=
  s.functions.pairs.filterMap fun (id, slot) => slot.map (BoundFunction.mk id)

/-- The snapshot of a machine. -/
def Machine.snapshot (m : Machine) : Snapshot where
  status := m.status
  steps := m.steps
  location := m.state.location
  direction := m.state.direction
  registers := m.state.registers.toList
  functions := m.state.boundFunctions
  tryHandler := m.state.tryHandler
  callDepth := m.state.callStack.depth
  inputPosition := m.state.input.position
  output := m.state.output.text

end PixelMachine
