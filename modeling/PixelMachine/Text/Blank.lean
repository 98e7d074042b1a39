/-!
# Blanks and words

The characters that separate words are those with the Unicode property White_Space. The words of a text
are its longest parts without them.
-/

set_option autoImplicit false

namespace PixelMachine.Text

/-- The characters with the property White_Space. -/
def isBlank (c : Char) : Bool :=
  let n := c.toNat
  (0x09 ≤ n && n ≤ 0x0D) || n = 0x20 || n = 0x85 || n = 0xA0 || n = 0x1680 ||
    (0x2000 ≤ n && n ≤ 0x200A) || n = 0x2028 || n = 0x2029 || n = 0x202F || n = 0x205F || n = 0x3000

/-- The longest parts without blanks, in their order. -/
def wordsOf : List Char → List (List Char)
  | [] => []
  | [c] => if isBlank c then [] else [[c]]
  | c :: d :: cs =>
    if isBlank c then wordsOf (d :: cs)
    else if isBlank d then [c] :: wordsOf (d :: cs)
    else
      match wordsOf (d :: cs) with
      | word :: rest => (c :: word) :: rest
      | [] => [[c]]

/-- The words of a text. -/
def words (text : String) : List String :=
  (wordsOf text.toList).map String.ofList

end PixelMachine.Text
