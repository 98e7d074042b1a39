import PixelMachine.Fault

/-!
# Output

A program prints one character after another. Only the printable characters of ASCII can be printed.
-/

set_option autoImplicit false

namespace PixelMachine

/-- What a program has printed. -/
@[ext] structure Output where
  /-- The characters, in the order of printing. -/
  text : String
  deriving DecidableEq

namespace Output

/-- The least printable code, the space. -/
def printableMin : UInt8 := 32

/-- The greatest printable code, the tilde. -/
def printableMax : UInt8 := 126

/-- A code that can be printed. -/
def Printable (code : UInt8) : Prop := printableMin ≤ code ∧ code ≤ printableMax

instance (code : UInt8) : Decidable (Printable code) :=
  inferInstanceAs (Decidable (_ ∧ _))

/-- Nothing printed. -/
def empty : Output := ⟨""⟩

/-- The output with the character of a code after it. -/
def append (o : Output) (code : UInt8) : Output := ⟨o.text.push (Char.ofNat code.toNat)⟩

/-- The output with one more character, if it can be printed. -/
def push (o : Output) (code : UInt8) : Except Fault Output :=
  if Printable code then .ok (o.append code)
  else .error (.builtin .outputNonAscii)

/-- What can be printed is printed, and nothing else. -/
theorem push_eq_ok_iff {o out : Output} {code : UInt8} :
    o.push code = .ok out ↔ Printable code ∧ out = o.append code := by
  unfold push
  split
  · rename_i h
    simp [h, eq_comm]
  · rename_i h
    simp [h]

/-- What cannot be printed is refused, for one reason only. -/
theorem push_eq_error_iff {o : Output} {code : UInt8} {fault : Fault} :
    o.push code = .error fault ↔ ¬ Printable code ∧ fault = .builtin .outputNonAscii := by
  unfold push
  split
  · rename_i h
    simp [h]
  · rename_i h
    simp [h, eq_comm]

end Output

end PixelMachine
