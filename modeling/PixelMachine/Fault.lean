import PixelMachine.Text.Quoted

/-!
# Faults

An instruction that cannot be carried out raises a fault: one of seven built-in ones, or one that the
program throws itself. Each has a code, the byte that a recovery hands to the program.
-/

set_option autoImplicit false

namespace PixelMachine

/-- The built-in faults. -/
inductive FaultKind where
  /-- An operand names no channel or no arithmetic operation. -/
  | invalidParameter
  /-- A division by zero. -/
  | divideByZero
  /-- The input is used up. -/
  | inputStreamEmpty
  /-- A byte to print is not printable ASCII. -/
  | outputNonAscii
  /-- A call of a function that is not bound. -/
  | functionUndefined
  /-- A red byte that is no opcode. -/
  | invalidInstruction
  /-- A return outside of every call. -/
  | noFunctionCalled
  deriving DecidableEq

namespace FaultKind

/-- The byte that stands for a built-in fault. -/
def code : FaultKind → UInt8
  | invalidParameter => 0
  | divideByZero => 1
  | inputStreamEmpty => 2
  | outputNonAscii => 3
  | functionUndefined => 4
  | invalidInstruction => 5
  | noFunctionCalled => 6

/-- The name of a built-in fault. -/
def name : FaultKind → String
  | invalidParameter => "InvalidParameter"
  | divideByZero => "DivideByZero"
  | inputStreamEmpty => "InputStreamEmpty"
  | outputNonAscii => "OutputNonAscii"
  | functionUndefined => "FunctionUndefined"
  | invalidInstruction => "InvalidInstruction"
  | noFunctionCalled => "NoFunctionCalled"

/-- All built-in faults, by code. -/
def all : List FaultKind :=
  [invalidParameter, divideByZero, inputStreamEmpty, outputNonAscii, functionUndefined,
    invalidInstruction, noFunctionCalled]

/-- The built-in fault with a name. -/
def ofName? (n : String) : Option FaultKind :=
  all.find? (·.name == n)

end FaultKind

/-- What an instruction raises when it cannot be carried out. -/
inductive Fault where
  /-- A built-in fault. -/
  | builtin (kind : FaultKind)
  /-- A fault that the program throws with a code of its own. -/
  | user (code : UInt8)
  deriving DecidableEq

namespace Fault

/-- The byte that a recovery writes and that a failed machine shows. -/
def code : Fault → UInt8
  | builtin kind => kind.code
  | user code => code

/-- What is reported of a fault. -/
def message : Fault → String
  | builtin kind => kind.name
  | user code => s!"thrown code {code.toNat}"

/-- A fault in full detail, with the case that it is. -/
def detail : Fault → String
  | builtin kind => Text.wrapped "Builtin" kind.name
  | user code => Text.wrapped "User" (toString code.toNat)

end Fault

end PixelMachine
