/-!
# Decimal numbers

A number is written with the digits of ASCII, after a plus sign or without one. Zeros in front change
nothing.

Where numbers need not be whole, a point stands before, between or after the digits, an exponent after
them, and there are words for infinity and for what is no number.
-/

set_option autoImplicit false

namespace PixelMachine.Text

/-- The number that a text stands for. -/
def decimal? (text : String) : Option Nat :=
  let digits := match text.toList with
    | '+' :: rest => rest
    | rest => rest
  if !digits.isEmpty && digits.all Char.isDigit then some (Nat.ofDigitChars 10 digits 0) else none

/-! ## Numbers that need not be whole -/

/-- Whether a text is an exponent, or nothing. -/
def isExponent : List Char → Bool
  | [] => true
  | e :: rest =>
    let digits := match rest with
      | '+' :: digits | '-' :: digits => digits
      | digits => digits
    e.toLower = 'e' && !digits.isEmpty && digits.all Char.isDigit

/-- Whether a text without a sign in front is a number, perhaps with a point and an exponent. -/
def isMagnitude (cs : List Char) : Bool :=
  let whole := cs.takeWhile Char.isDigit
  match cs.drop whole.length with
  | '.' :: rest =>
    let decimals := rest.takeWhile Char.isDigit
    !(whole.isEmpty && decimals.isEmpty) && isExponent (rest.drop decimals.length)
  | rest => !whole.isEmpty && isExponent rest

/-- Whether a text without a sign in front is a number, or a word for infinity or for no number. -/
def isRealNumber (cs : List Char) : Bool :=
  isMagnitude cs || ["inf", "infinity", "nan"].contains (String.ofList (cs.map Char.toLower))

end PixelMachine.Text
