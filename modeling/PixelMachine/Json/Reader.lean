import PixelMachine.Json.Value
import PixelMachine.Text.Hexadecimal

/-!
# Reading JSON text

`Value.ofText?` reads a whole text as one document. A key that an object repeats keeps its first place
and takes its last value.
-/

set_option autoImplicit false

namespace PixelMachine.Json

namespace Reader

/-- The white space of JSON. -/
def isSpace (c : Char) : Bool :=
  c = ' ' || c = '\t' || c = '\n' || c = '\r'

/-- What follows the white space at the front. -/
def skipSpace (cs : List Char) : List Char := cs.dropWhile isSpace

/-- What follows a word at the front. -/
def expect? : List Char → List Char → Option (List Char)
  | [], cs => some cs
  | w :: word, c :: cs => if w = c then expect? word cs else none
  | _ :: _, [] => none

/-- The number of four hexadecimal digits at the front, with what follows them. -/
def hex4? (cs : List Char) : Option (Nat × List Char) :=
  if (cs.take 4).length = 4 then (Text.hexadecimal? (cs.take 4)).map (·, cs.drop 4) else none

/-- The first half of a pair of UTF-16 units. -/
def isHighSurrogate (n : Nat) : Bool := 0xD800 ≤ n && n < 0xDC00

/-- The second half of a pair of UTF-16 units. -/
def isLowSurrogate (n : Nat) : Bool := 0xDC00 ≤ n && n < 0xE000

/-- The character of an escape that is written in hexadecimal: one unit, or two escapes for a pair of
them. -/
def unicodeEscape? (cs : List Char) : Option (Char × List Char) := do
  let (high, rest) ← hex4? cs
  if isHighSurrogate high then
    match rest with
    | '\\' :: 'u' :: rest =>
      let (low, rest) ← hex4? rest
      if isLowSurrogate low then
        some (Char.ofNat (0x10000 + (high - 0xD800) * 0x400 + (low - 0xDC00)), rest)
      else none
    | _ => none
  else if isLowSurrogate high then none
  else some (Char.ofNat high, rest)

/-- The character that a one-letter escape stands for. -/
def letterEscape? : Char → Option Char
  | '"' => some '"'
  | '\\' => some '\\'
  | '/' => some '/'
  | 'b' => some '\x08'
  | 'f' => some '\x0c'
  | 'n' => some '\n'
  | 'r' => some '\r'
  | 't' => some '\t'
  | _ => none

/-- The characters up to the closing quote, `limit` at most, with what follows it; `done` holds the ones
before, the latest first. -/
def string? : (limit : Nat) → List Char → List Char → Option (String × List Char)
  | 0, _, _ => none
  | _ + 1, _, [] => none
  | limit + 1, done, c :: cs =>
    if c = '"' then some (String.ofList done.reverse, cs)
    else if c = '\\' then
      match cs with
      | 'u' :: rest => do
        let (e, rest) ← unicodeEscape? rest
        string? limit (e :: done) rest
      | letter :: rest => do
        let e ← letterEscape? letter
        string? limit (e :: done) rest
      | [] => none
    else if c.toNat < 0x20 then none
    else string? limit (c :: done) cs

/-- The digits at the front, of which there has to be one, with what follows them. -/
def digits? (cs : List Char) : Option (List Char × List Char) :=
  match cs.takeWhile Char.isDigit with
  | [] => none
  | ds => some (ds, cs.dropWhile Char.isDigit)

/-- The digits of a whole part: a zero alone, or digits that do not start with one. -/
def whole? (cs : List Char) : Option (List Char × List Char) := do
  let (ds, rest) ← digits? cs
  if ds.length > 1 ∧ ds.head? = some '0' then none else some (ds, rest)

/-- The fraction at the front, if there is one. -/
def fraction? : List Char → Option (List Char × List Char)
  | '.' :: cs => do
    let (ds, rest) ← digits? cs
    some ('.' :: ds, rest)
  | cs => some ([], cs)

/-- The exponent at the front, if there is one. -/
def exponent? : List Char → Option (List Char × List Char)
  | c :: cs =>
    if c = 'e' ∨ c = 'E' then
      match cs with
      | sign :: more =>
        if sign = '+' ∨ sign = '-' then do
          let (ds, rest) ← digits? more
          some (c :: sign :: ds, rest)
        else do
          let (ds, rest) ← digits? cs
          some (c :: ds, rest)
      | [] => none
    else some ([], c :: cs)
  | [] => some ([], [])

/-- Whether there is a minus at the front, with what follows it. -/
def minus : List Char → Bool × List Char
  | '-' :: rest => (true, rest)
  | rest => (false, rest)

/-- The number at the front, with what follows it. -/
def number? (cs : List Char) : Option (Value × List Char) := do
  let (negative, body) := minus cs
  let (ds, rest) ← whole? body
  let (fraction, rest) ← fraction? rest
  let (exponent, rest) ← exponent? rest
  let n := Nat.ofDigitChars 10 ds 0
  let written := String.ofList ((if negative then ['-'] else []) ++ ds ++ fraction ++ exponent)
  let isWord := if negative then 0 < n ∧ Int64.minValue.toInt ≤ -(n : Int) else n < UInt64.size
  if fraction.isEmpty ∧ exponent.isEmpty ∧ isWord then
    some (.int (if negative then -(n : Int) else n), rest)
  else some (.decimal written, rest)

/-- The members with one more: a new key comes last, a known one keeps its place. -/
def putMember (members : List (String × Value)) (key : String) (v : Value) :
    List (String × Value) :=
  if members.any (·.1 == key) then
    members.map fun m => if m.1 == key then (key, v) else m
  else members ++ [(key, v)]

mutual

/-- The document at the front, with what follows it. Its strings have `limit` characters at most. -/
def value? (limit : Nat) : Nat → List Char → Option (Value × List Char)
  | 0, _ => none
  | fuel + 1, cs =>
    match skipSpace cs with
    | 'n' :: rest => (expect? ['u', 'l', 'l'] rest).map fun rest => (.null, rest)
    | 't' :: rest => (expect? ['r', 'u', 'e'] rest).map fun rest => (.bool true, rest)
    | 'f' :: rest => (expect? ['a', 'l', 's', 'e'] rest).map fun rest => (.bool false, rest)
    | '"' :: rest => (string? limit [] rest).map fun r => (.string r.1, r.2)
    | '[' :: rest =>
      match skipSpace rest with
      | ']' :: rest => some (.list [], rest)
      | rest => items? limit fuel [] rest
    | '\x7b' :: rest =>
      match skipSpace rest with
      | '\x7d' :: rest => some (.object [], rest)
      | rest => members? limit fuel [] rest
    | rest => number? rest

/-- The items up to the closing bracket; `done` holds the ones before, the latest first. -/
def items? (limit : Nat) : Nat → List Value → List Char → Option (Value × List Char)
  | 0, _, _ => none
  | fuel + 1, done, cs => do
    let (v, rest) ← value? limit fuel cs
    match skipSpace rest with
    | ',' :: rest => items? limit fuel (v :: done) rest
    | ']' :: rest => some (.list (v :: done).reverse, rest)
    | _ => none

/-- The members up to the closing brace, after the ones before. -/
def members? (limit : Nat) : Nat → List (String × Value) → List Char → Option (Value × List Char)
  | 0, _, _ => none
  | fuel + 1, done, cs =>
    match skipSpace cs with
    | '"' :: rest => do
      let (key, rest) ← string? limit [] rest
      match skipSpace rest with
      | ':' :: rest =>
        let (v, rest) ← value? limit fuel rest
        match skipSpace rest with
        | ',' :: rest => members? limit fuel (putMember done key v) rest
        | '\x7d' :: rest => some (.object (putMember done key v), rest)
        | _ => none
      | _ => none
    | _ => none

end

end Reader

/-- The document that a whole text is. -/
def Value.ofText? (text : String) : Option Value := do
  let cs := text.toList
  let (v, rest) ← Reader.value? (cs.length + 1) (2 * cs.length + 2) cs
  if (Reader.skipSpace rest).isEmpty then some v else none

end PixelMachine.Json
