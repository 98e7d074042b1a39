import PixelMachine.Text.Bytes
import PixelMachine.Yaml.Error

/-!
# Reading a text by lines and columns

YAML gives a meaning to columns, so a text is read through a cursor that knows its line and its
column. Line breaks are made uniform first: a carriage return, with or without a line feed, and the
next-line character read as a line feed. The two Unicode separators break lines too and stay what they
are.
-/

set_option autoImplicit false

namespace PixelMachine.Yaml

/-- The characters that a text may hold. -/
def isAllowed (c : Char) : Bool :=
  let n := c.toNat
  n = 0x09 || n = 0x0A || n = 0x0D || (0x20 ≤ n && n ≤ 0x7E) || n = 0x85 || (0xA0 ≤ n && n ≤ 0xFFFD) ||
    0x10000 ≤ n

/-- A line break, after line breaks were made uniform. -/
def isBreak (c : Char) : Bool :=
  c = '\n' || c = '\u2028' || c = '\u2029'

/-- A space or a tab. -/
def isBlank (c : Char) : Bool :=
  c = ' ' || c = '\t'

/-- A blank, a line break, or the end of the text. -/
def endsWord : Option Char → Bool
  | none => true
  | some c => isBlank c || isBreak c

/-- The text with uniform line breaks. -/
def uniformBreaks : List Char → List Char
  | '\r' :: '\n' :: rest => '\n' :: uniformBreaks rest
  | c :: rest => (if c = '\r' || c = '\u0085' then '\n' else c) :: uniformBreaks rest
  | [] => []

/-- A place in a text. -/
structure Mark where
  /-- The line, counted from zero. -/
  line : Nat
  /-- The number of characters before it on its line. -/
  column : Nat
  /-- The number of bytes before it on its line. -/
  offset : Nat

namespace Mark

/-- The start of a text. -/
def start : Mark := ⟨0, 0, 0⟩

/-- The place after some characters that are no line breaks. -/
def after (m : Mark) (cs : List Char) : Mark :=
  { m with column := m.column + cs.length, offset := m.offset + Text.byteCount cs }

/-- The start of the next line. -/
def nextLine (m : Mark) : Mark := ⟨m.line + 1, 0, 0⟩

end Mark

/-- A place in a text with what follows it. -/
structure Cursor where
  /-- The place. -/
  mark : Mark
  /-- What follows. -/
  rest : List Char

namespace Cursor

/-- The start of a text. -/
def start (cs : List Char) : Cursor := ⟨.start, cs⟩

/-- The column of a cursor. -/
def column (c : Cursor) : Nat := c.mark.column

/-- The next character. -/
def peek (c : Cursor) : Option Char := c.rest.head?

/-- The character `n` places on. -/
def peekAt (c : Cursor) (n : Nat) : Option Char := c.rest[n]?

/-- Whether the next character is this one. -/
def sees (c : Cursor) (x : Char) : Bool := c.peek == some x

/-- Whether the next character is a blank. -/
def seesBlank (c : Cursor) : Bool := c.peek.any isBlank

/-- Whether the next character is a line break. -/
def seesBreak (c : Cursor) : Bool := c.peek.any isBreak

/-- The cursor after some characters that are no line breaks. -/
def advance (c : Cursor) (n : Nat) : Cursor :=
  ⟨c.mark.after (c.rest.take n), c.rest.drop n⟩

/-- The cursor after a line break. -/
def nextLine (c : Cursor) : Cursor := ⟨c.mark.nextLine, c.rest.drop 1⟩

/-- The cursor after a byte order mark, if it starts a line with one. The mark takes up a column. -/
def skipByteOrderMark (c : Cursor) : Cursor :=
  if c.column = 0 && c.sees '\uFEFF' then c.advance 1 else c

/-- The characters at the front with a property, none of them a line break, and the cursor after
them. -/
def takeWhile (c : Cursor) (p : Char → Bool) : List Char × Cursor :=
  let taken := c.rest.takeWhile fun x => p x && !isBreak x
  (taken, c.advance taken.length)

/-- The cursor after the characters at the front with a property, none of them a line break. -/
def skipWhile (c : Cursor) (p : Char → Bool) : Cursor := (c.takeWhile p).2

/-- The cursor at the end of the line. -/
def endOfLine (c : Cursor) : Cursor := c.skipWhile fun _ => true

/-- Whether the cursor is at the start of a line that starts or ends a document: three dashes or three
dots, alone or before a blank. -/
def seesDocumentMark (c : Cursor) (x : Char) : Bool :=
  c.column = 0 && c.rest.take 3 == [x, x, x] && endsWord (c.peekAt 3)

/-- Whether the cursor is at the start of a line that starts or ends a document. -/
def seesAnyDocumentMark (c : Cursor) : Bool := c.seesDocumentMark '-' || c.seesDocumentMark '.'

end Cursor

end PixelMachine.Yaml
