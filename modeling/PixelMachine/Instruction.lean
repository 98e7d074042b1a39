import PixelMachine.Fault
import PixelMachine.Opcode
import PixelMachine.Pixel

/-!
# Instructions

A pixel is read as an instruction: its red byte is the opcode, its green and blue bytes are the
operands. An instruction whose opcode takes the next pixel as an operand is two cells wide, and all
others are one cell wide. Writing an instruction as a pixel and reading it back gives the
instruction (`Instruction.decode_toPixel`), and only its own pixel gives it
(`Instruction.decode_eq_ok_iff`).
-/

set_option autoImplicit false

namespace PixelMachine

/-- An opcode with its two operand bytes. -/
structure Instruction where
  /-- The opcode. -/
  kind : Opcode
  /-- The green operand. -/
  g : UInt8
  /-- The blue operand. -/
  b : UInt8
  deriving DecidableEq

namespace Instruction

/-- The instruction that a pixel stands for. -/
def decode (p : Pixel) : Except Fault Instruction :=
  match Opcode.ofByte? p.red with
  | some kind => .ok ⟨kind, p.green, p.blue⟩
  | none => .error (.builtin .invalidInstruction)

/-- The pixel that stands for an instruction. -/
def toPixel (i : Instruction) : Pixel :=
  ⟨i.kind.byte, i.g, i.b⟩

/-- The number of cells that an instruction takes up along the way of the cursor. -/
def width (i : Instruction) : Nat :=
  if i.kind.readsLookahead then 2 else 1

/-- The text of an instruction in traces, as in `SET 3 100`. -/
def text (i : Instruction) : String :=
  s!"{i.kind.mnemonic} {i.g.toNat} {i.b.toNat}"

/-- The pixel of an instruction stands for that instruction. -/
theorem decode_toPixel (i : Instruction) : decode i.toPixel = .ok i := by
  simp [decode, toPixel, Opcode.ofByte?_byte]

/-- Only the pixel of an instruction stands for it. -/
theorem decode_eq_ok_iff {p : Pixel} {i : Instruction} : decode p = .ok i ↔ p = i.toPixel := by
  constructor
  · intro h
    unfold decode at h
    split at h
    · next kind hkind =>
      cases h
      rw [Opcode.ofByte?_eq_some_iff] at hkind
      simp [toPixel, ← hkind]
    · cases h
  · rintro rfl
    exact decode_toPixel i

end Instruction

/-- The arithmetic operations of a calculation. -/
inductive Arithmetic where
  | add
  | sub
  | mul
  | div
  deriving DecidableEq

namespace Arithmetic

/-- The three bits that stand for an operation. -/
def bits : Arithmetic → UInt8
  | add => 1
  | sub => 2
  | mul => 3
  | div => 4

/-- All operations, by their bits. -/
def all : List Arithmetic := [add, sub, mul, div]

/-- The operation that a number stands for. -/
def ofBits? (n : UInt8) : Option Arithmetic :=
  all.find? (·.bits == n)

/-- Every operation is the one that its own bits stand for. -/
theorem ofBits?_bits (op : Arithmetic) : ofBits? op.bits = some op := by
  cases op <;> rfl

/-- The name of an operation. -/
def name : Arithmetic → String
  | add => "Add"
  | sub => "Sub"
  | mul => "Mul"
  | div => "Div"

/-- The operation with a name. -/
def ofName? (n : String) : Option Arithmetic :=
  all.find? (·.name == n)

/-- The green byte of a calculation: the operation in the upper three bits, the channel in the lower
two. -/
def encode (op : Arithmetic) (channel : UInt8) : UInt8 :=
  (op.bits <<< 5) ||| (channel &&& 3)

/-- The result of an operation on two bytes, modulo 256. Only a division by zero has none. -/
def apply : Arithmetic → UInt8 → UInt8 → Except Fault UInt8
  | add, x, y => .ok (x + y)
  | sub, x, y => .ok (x - y)
  | mul, x, y => .ok (x * y)
  | div, x, y => if y = 0 then .error (.builtin .divideByZero) else .ok (x / y)

end Arithmetic

end PixelMachine
