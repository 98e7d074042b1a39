/-!
# Opcodes

The twelve kinds of instruction. Each has a byte that programs are painted with, a dense index for
tables with one entry for each kind, a mnemonic, and a name.
-/

set_option autoImplicit false

namespace PixelMachine

/-- The kinds of instruction. -/
inductive Opcode where
  /-- Stops the run. -/
  | halt
  /-- Copies a channel of the next pixel into a register. -/
  | setVar
  /-- Combines a register with a channel of the next pixel. -/
  | calculate
  /-- Binds a function to the place of the cursor. -/
  | defineFunction
  /-- Installs the one try-handler at the place of the cursor. -/
  | defineTry
  /-- Goes back to the latest call. -/
  | ret
  /-- Turns a quarter turn if two registers are equal. -/
  | branch
  /-- Raises the code that a register holds. -/
  | throw
  /-- Prints a register as a character. -/
  | output
  /-- Reads the next input code into a register. -/
  | input
  /-- Calls a bound function. -/
  | call
  /-- Does nothing. -/
  | nop
  deriving DecidableEq, Inhabited

namespace Opcode

/-- The number of kinds. -/
abbrev count : Nat := 12

/-- All kinds, by dense index. -/
def all : Vector Opcode count :=
  #v[halt, setVar, calculate, defineFunction, defineTry, ret, branch, throw, output, input, call, nop]

/-- The place of a kind in tables with one entry for each kind. -/
def index : Opcode → Fin count
  | halt => 0
  | setVar => 1
  | calculate => 2
  | defineFunction => 3
  | defineTry => 4
  | ret => 5
  | branch => 6
  | throw => 7
  | output => 8
  | input => 9
  | call => 10
  | nop => 11

/-- The list of all kinds has each kind at its index. -/
theorem all_get_index (k : Opcode) : all[k.index] = k := by
  cases k <;> rfl

/-- The red byte of an instruction of this kind. -/
def byte : Opcode → UInt8
  | halt => 0
  | setVar => 1
  | calculate => 2
  | defineFunction => 3
  | defineTry => 4
  | ret => 5
  | branch => 6
  | throw => 7
  | output => 8
  | input => 9
  | call => 10
  | nop => 255

/-- The kind with a red byte. -/
def ofByte? (b : UInt8) : Option Opcode :=
  all.toList.find? (·.byte == b)

/-- Every kind is found by its byte. -/
theorem ofByte?_byte (k : Opcode) : ofByte? k.byte = some k := by
  cases k <;> rfl

/-- A byte finds a kind exactly if it is that kind's byte. -/
theorem ofByte?_eq_some_iff {b : UInt8} {k : Opcode} : ofByte? b = some k ↔ b = k.byte := by
  constructor
  · intro h
    have hbyte := List.find?_some h
    exact (eq_of_beq hbyte).symm
  · rintro rfl
    exact ofByte?_byte k

/-- The short word for a kind in traces. -/
def mnemonic : Opcode → String
  | halt => "HALT"
  | setVar => "SET"
  | calculate => "CALC"
  | defineFunction => "DEFN"
  | defineTry => "TRY"
  | ret => "RET"
  | branch => "BEQ"
  | throw => "THROW"
  | output => "OUT"
  | input => "IN"
  | call => "CALL"
  | nop => "NOP"

/-- The name of a kind. -/
def name : Opcode → String
  | halt => "Halt"
  | setVar => "SetVar"
  | calculate => "Calculate"
  | defineFunction => "DefineFunction"
  | defineTry => "DefineTry"
  | ret => "Return"
  | branch => "Branch"
  | throw => "Throw"
  | output => "Output"
  | input => "Input"
  | call => "Call"
  | nop => "Nop"

/-- The kind with a name. -/
def ofName? (n : String) : Option Opcode :=
  all.toList.find? (·.name == n)

/-- Whether an instruction of this kind takes the pixel that follows it as an operand. -/
def readsLookahead : Opcode → Bool
  | setVar | calculate => true
  | _ => false

end Opcode

end PixelMachine
