import PixelMachine.Fault

/-!
# Input

The input of a program is a sequence of bytes, read from the front. Text is given to a program one
byte for each character: its code point modulo 256.
-/

set_option autoImplicit false

namespace PixelMachine

/-- A sequence of bytes with the place of the next one to read. -/
@[ext] structure Input where
  /-- All bytes, read and unread. -/
  codes : Array UInt8
  /-- The number of bytes read. -/
  position : Nat
  deriving DecidableEq

namespace Input

/-- Unread input. -/
def ofCodes (codes : List UInt8) : Input := ⟨codes.toArray, 0⟩

/-- Unread input from text. A character beyond Latin-1 wraps: `Ł`, code point 0x141, reads as 0x41. -/
def ofText (text : String) : Input :=
  ofCodes (text.toList.map fun c => c.toNat.toUInt8)

/-- No input. -/
def empty : Input := ofCodes []

/-- The next byte, with the input after it. The fault leaves the input as it is. -/
def next (i : Input) : Except Fault (UInt8 × Input) :=
  match i.codes[i.position]? with
  | some code => .ok (code, { i with position := i.position + 1 })
  | none => .error (.builtin .inputStreamEmpty)

/-- The number of unread bytes. -/
def remaining (i : Input) : Nat := i.codes.size - i.position

/-- The same input, unread again. -/
def rewind (i : Input) : Input := { i with position := 0 }

end Input

end PixelMachine
