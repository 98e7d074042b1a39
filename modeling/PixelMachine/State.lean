import PixelMachine.ByteTable
import PixelMachine.CallStack
import PixelMachine.Input
import PixelMachine.Output

/-!
# The state of a run

Everything that instructions change: the cursor with its direction, 256 byte registers, 256 functions,
the one try-handler, the calls in progress, the input and the output.
-/

set_option autoImplicit false

namespace PixelMachine

/-- A bound function. -/
structure FunctionSlot where
  /-- Where the instruction stands that bound it; a call goes there. -/
  location : Location
  /-- The register that receives the argument of a call. -/
  param : UInt8
  deriving DecidableEq

/-- The pending try-handler. -/
structure TryHandler where
  /-- Where the instruction stands that installed it; a recovery goes on one cell past it. -/
  location : Location
  /-- The register that receives the code of the fault. -/
  dest : UInt8
  deriving DecidableEq

/-- Everything that instructions change. -/
@[ext] structure State where
  /-- Where the cursor stands. -/
  location : Location
  /-- Where the cursor travels. -/
  direction : Direction
  /-- The registers. -/
  registers : ByteTable UInt8
  /-- The functions; an unbound one is missing. -/
  functions : ByteTable (Option FunctionSlot)
  /-- The pending try-handler, if there is one. -/
  tryHandler : Option TryHandler
  /-- Where the calls in progress were made. -/
  callStack : CallStack
  /-- The input. -/
  input : Input
  /-- The output. -/
  output : Output
  deriving DecidableEq

namespace State

/-- The state in which a run on this input starts: the cursor on the origin on its way east, all
registers zero, and nothing bound, pending, called or printed. -/
def start (input : Input) : State where
  location := .origin
  direction := .east
  registers := .fill 0
  functions := .fill none
  tryHandler := none
  callStack := .empty
  input := input
  output := .empty

/-- The state in which a run starts again: everything is set back, and the input is unread. -/
def reset (s : State) : State :=
  { s with
    location := .origin
    direction := .east
    registers := .fill 0
    functions := .fill none
    tryHandler := none
    callStack := .empty
    input := s.input.rewind
    output := .empty }

/-- A reset keeps nothing but the codes of the input: it is a start on the same input, unread. -/
theorem reset_eq_start (s : State) : s.reset = start s.input.rewind :=
  rfl

/-- The value of a register. -/
def register (s : State) (i : UInt8) : UInt8 := s.registers.get i

/-- The state with another value in one register. -/
def setRegister (s : State) (i value : UInt8) : State :=
  { s with registers := s.registers.set i value }

/-- The function with a number, if it is bound. -/
def function? (s : State) (id : UInt8) : Option FunctionSlot := s.functions.get id

/-- The state in which a number is bound to a function. -/
def bindFunction (s : State) (id : UInt8) (slot : FunctionSlot) : State :=
  { s with functions := s.functions.set id (some slot) }

/-- Every register after one was written. -/
theorem register_setRegister (s : State) (i j value : UInt8) :
    (s.setRegister i value).register j = if i = j then value else s.register j :=
  ByteTable.get_set s.registers i j value

/-- Every function after one was bound. -/
theorem function?_bindFunction (s : State) (i j : UInt8) (slot : FunctionSlot) :
    (s.bindFunction i slot).function? j = if i = j then some slot else s.function? j :=
  ByteTable.get_set s.functions i j (some slot)

end State

end PixelMachine
