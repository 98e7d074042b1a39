import PixelMachine.Text.Blank
import PixelMachine.Text.Hexadecimal

/-!
# Signs of patterns

A pattern is made of signs. Most characters are signs for themselves; others are written after a
backslash, and so are some sets of characters and some places between characters.

Options change how a pattern is read. With one of them blanks and comments between signs are passed over
(`Options.skip`); a comment goes from a number sign to the end of its line.
-/

set_option autoImplicit false

namespace PixelMachine.Text.Pattern

/-! ## Options -/

/-- How a part of a pattern is read. -/
structure Options where
  /-- Capitals and small letters are taken for the same. -/
  ignoresCase : Bool
  /-- Sets of characters are sets of code points, and otherwise sets of bytes. -/
  isUnicode : Bool
  /-- Blanks and comments between signs are passed over. -/
  isSpaced : Bool
  deriving DecidableEq

namespace Options

/-- The options at the start of a pattern. -/
def start : Options := ⟨false, true, false⟩

/-- The letters of the options. Four of them change only what a pattern describes. -/
def letters : List Char := ['i', 'm', 's', 'U', 'u', 'R', 'x']

/-- Some options with one of them turned on or off. -/
def set (value : Bool) (o : Options) : Char → Options
  | 'i' => { o with ignoresCase := value }
  | 'u' => { o with isUnicode := value }
  | 'x' => { o with isSpaced := value }
  | _ => o

/-- Some options with others turned on, and those after a minus sign turned off. -/
def change (o : Options) (written : List Char) : Options :=
  let on := written.takeWhile (· ≠ '-')
  (written.drop on.length).foldl (set false) (on.foldl (set true) o)

end Options

/-! ## Blanks and comments -/

/-- What follows the blanks and comments in front; the text may start in a comment. -/
def skipSpace (inComment : Bool) : List Char → List Char
  | [] => []
  | c :: cs =>
    if inComment then skipSpace (c ≠ '\n') cs
    else if isBlank c then skipSpace false cs
    else if c = '#' then skipSpace true cs
    else c :: cs

/-- The first character that is no blank, and not the number sign that opens the first comment. -/
def firstVisible? (inComment : Bool) : List Char → Option Char
  | [] => none
  | c :: cs =>
    if isBlank c then firstVisible? inComment cs
    else if c = '#' && !inComment then firstVisible? true cs
    else some c

namespace Options

/-- What follows the blanks and comments in front, where they are passed over. -/
def skip (o : Options) (cs : List Char) : List Char := if o.isSpaced then skipSpace false cs else cs

/-- The next character; blanks before it are passed over where they are, but of a comment only its
number sign. -/
def peek? (o : Options) (cs : List Char) : Option Char :=
  if o.isSpaced then firstVisible? false cs else cs.head?

end Options

/-! ## Signs -/

/-- A sign of a pattern. -/
inductive Sign where
  /-- A character; it may be given as a byte. -/
  | char (c : Char) (isByte : Bool)
  /-- The digits, the blanks or the characters of words, or all others. -/
  | class_ (isNegated : Bool)
  /-- The start or the end of the text. -/
  | edge
  /-- A place where a word starts or ends, or where none does. -/
  | boundary
  deriving DecidableEq

namespace Sign

/-- The number that the next hexadecimal digits add to one, with what follows them. -/
def digits? (o : Options) : Nat → Nat → List Char → Option (Nat × List Char)
  | 0, n, cs => some (n, cs)
  | count + 1, n, cs =>
    match o.skip cs with
    | [] => none
    | c :: cs => do digits? o count (n * 16 + (← hexDigit? c)) cs

/-- The character that is given by some hexadecimal digits, with what follows them. -/
def coded? (o : Options) (count : Nat) (isByte : Bool) (cs : List Char) : Option (Sign × List Char) := do
  let (n, rest) ← digits? o count 0 cs
  some (char (← charOfCode? n) isByte, rest)

/-- Whether a character stands for itself after a backslash: the signs of ASCII that are neither letters
nor digits do, but for the two of comparison. -/
def isEscapable (c : Char) : Bool := c.toNat < 0x80 && !c.isAlphanum && c ≠ '<' && c ≠ '>'

/-- The sign that is written with a backslash and one more character. -/
def ofEscape? : Char → Option Sign
  | 'a' => some (char '\x07' false)
  | 'f' => some (char '\x0c' false)
  | 't' => some (char '\t' false)
  | 'n' => some (char '\n' false)
  | 'r' => some (char '\r' false)
  | 'v' => some (char '\x0b' false)
  | 'd' | 's' | 'w' => some (class_ false)
  | 'D' | 'S' | 'W' => some (class_ true)
  | 'A' | 'z' => some edge
  | 'b' | 'B' | '<' | '>' => some boundary
  | c => if isEscapable c then some (char c false) else none

/-- The sign at the front of a text, with what follows it. -/
def read? (o : Options) : List Char → Option (Sign × List Char)
  | [] => none
  | '\\' :: 'x' :: cs => coded? o 2 true cs
  | '\\' :: 'u' :: cs => coded? o 4 false cs
  | '\\' :: 'U' :: cs => coded? o 8 false cs
  | '\\' :: c :: cs => (ofEscape? c).map (·, cs)
  | ['\\'] => none
  | c :: cs => some (char c false, cs)

/-- Whether a sign can stand in a pattern outside brackets. Where code points are meant, capitals and
small letters are known apart only, and neither classes nor boundaries are known; where bytes are meant,
no sign may stand for a byte beyond ASCII. -/
def isAllowed (o : Options) : Sign → Bool
  | char c isByte => if o.isUnicode then !o.ignoresCase else !isByte || c.toNat < 0x80
  | class_ isNegated => !o.isUnicode && !isNegated
  | edge => true
  | boundary => !o.isUnicode

end Sign

end PixelMachine.Text.Pattern
