import PixelMachine.Json.Value

/-!
# Writing JSON text

A document is written on one line without spaces (`Value.compact`), or with each item and each member
on a line of its own and two spaces for each level (`Value.pretty`). An empty list or object is written
as its two brackets in both.
-/

set_option autoImplicit false

namespace PixelMachine.Json

namespace Printer

/-- The lower-case hexadecimal digit of a number below 16. -/
def hexDigit (n : Nat) : Char :=
  if n < 10 then Char.ofNat (48 + n) else Char.ofNat (87 + n)

/-- The escape of a UTF-16 unit. -/
def unitEscape (n : Nat) : List Char :=
  ['\\', 'u', hexDigit (n / 4096 % 16), hexDigit (n / 256 % 16), hexDigit (n / 16 % 16),
    hexDigit (n % 16)]

/-- A character in a string. The quote, the backslash and the control characters are escaped, and with
`ascii` every character beyond ASCII too. -/
def escapeChar (ascii : Bool) (c : Char) : List Char :=
  if c = '"' then ['\\', '"']
  else if c = '\\' then ['\\', '\\']
  else if c = '\x08' then ['\\', 'b']
  else if c = '\x0c' then ['\\', 'f']
  else if c = '\n' then ['\\', 'n']
  else if c = '\r' then ['\\', 'r']
  else if c = '\t' then ['\\', 't']
  else if c.toNat < 0x20 then unitEscape c.toNat
  else if ascii ∧ 0x7f ≤ c.toNat then
    if c.toNat < 0x10000 then unitEscape c.toNat
    else
      let n := c.toNat - 0x10000
      unitEscape (0xD800 + n / 0x400) ++ unitEscape (0xDC00 + n % 0x400)
  else [c]

/-- A string in quotes. -/
def quote (ascii : Bool) (s : String) : String :=
  "\"" ++ String.ofList (s.toList.flatMap (escapeChar ascii)) ++ "\""

/-- Where an item starts: the line break and the indentation of a level, if lines are broken. -/
def lineBreak : Option Nat → String
  | some level => "\n" ++ String.ofList (List.replicate (2 * level) ' ')
  | none => ""

/-- What stands between a key and its value. -/
def colon : Option Nat → String
  | some _ => ": "
  | none => ":"

mutual

/-- What is written already, followed by a document at a level of indentation, or on one line. -/
def write (ascii : Bool) (level : Option Nat) (written : String) : Value → String
  | .null => written ++ "null"
  | .bool true => written ++ "true"
  | .bool false => written ++ "false"
  | .int n => written ++ toString n
  | .decimal text => written ++ text
  | .string s => written ++ quote ascii s
  | .list [] => written ++ "[]"
  | .list (v :: rest) =>
    let inner := level.map (· + 1)
    let first := write ascii inner (written ++ "[" ++ lineBreak inner) v
    writeItems ascii inner first rest ++ lineBreak level ++ "]"
  | .object [] => written ++ "\x7b\x7d"
  | .object ((key, v) :: rest) =>
    let inner := level.map (· + 1)
    let opened := written ++ "\x7b" ++ lineBreak inner
    let first := write ascii inner (opened ++ quote ascii key ++ colon level) v
    writeMembers ascii inner first rest ++ lineBreak level ++ "\x7d"

/-- What is written already, followed by the items of a list after its first. -/
def writeItems (ascii : Bool) (level : Option Nat) (written : String) : List Value → String
  | [] => written
  | v :: rest =>
    writeItems ascii level (write ascii level (written ++ "," ++ lineBreak level) v) rest

/-- What is written already, followed by the members of an object after its first. -/
def writeMembers (ascii : Bool) (level : Option Nat) (written : String) :
    List (String × Value) → String
  | [] => written
  | (key, v) :: rest =>
    let opened := written ++ "," ++ lineBreak level ++ quote ascii key ++ colon level
    writeMembers ascii level (write ascii level opened v) rest

end

end Printer

/-- The text of a document on one line, in ASCII. -/
def Value.compact (v : Value) : String := Printer.write true none "" v

/-- The text of a document over several lines. -/
def Value.pretty (v : Value) : String := Printer.write false (some 0) "" v

end PixelMachine.Json
