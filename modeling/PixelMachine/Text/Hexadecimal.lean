/-!
# Hexadecimal numbers

A number is written with sixteen digits, the letters in capitals or not. A character can be given by the
number of its code point.
-/

set_option autoImplicit false

namespace PixelMachine.Text

/-- The value of a hexadecimal digit. -/
def hexDigit? (c : Char) : Option Nat :=
  if '0' ≤ c ∧ c ≤ '9' then some (c.toNat - 48)
  else if 'a' ≤ c ∧ c ≤ 'f' then some (c.toNat - 87)
  else if 'A' ≤ c ∧ c ≤ 'F' then some (c.toNat - 55)
  else none

/-- The number that some hexadecimal digits stand for. -/
def hexadecimal? (digits : List Char) : Option Nat :=
  digits.foldlM (fun code d => (hexDigit? d).map (code * 16 + ·)) 0

/-- The character of a code point, if there is one. -/
def charOfCode? (code : Nat) : Option Char :=
  if code < 0xD800 ∨ (0xDFFF < code ∧ code < 0x110000) then some (Char.ofNat code) else none

/-- The character whose code point some hexadecimal digits are, if they are `n` and there is one. -/
def codePoint? (n : Nat) (digits : List Char) : Option Char :=
  if digits.length = n then (hexadecimal? digits).bind charOfCode? else none

end PixelMachine.Text
