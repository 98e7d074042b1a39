/-!
# Bytes of a text

A character takes one to four bytes. The bytes count the length of a text, and places in it.
-/

set_option autoImplicit false

namespace PixelMachine.Text

/-- The number of bytes that some characters take. -/
def byteCount (cs : List Char) : Nat := cs.foldr (fun c n => c.utf8Size + n) 0

/-- The characters that start at the places from `first` on and before `last`, if the first character is
at `place`. -/
def cutFrom (first last place : Nat) : List Char → List Char
  | [] => []
  | c :: cs =>
    let rest := cutFrom first last (place + c.utf8Size) cs
    if first ≤ place ∧ place < last then c :: rest else rest

/-- The characters that start in the `length` bytes after the first `start` ones. -/
def cut (start length : Nat) (cs : List Char) : List Char := cutFrom start (start + length) 0 cs

end PixelMachine.Text
