import PixelMachine.Yaml.Scalar

/-!
# YAML tokens

A text as a sequence of tokens. In block style the structure is in the columns: a token further to the
right than the block it belongs to starts a new block, and one further to the left ends the blocks it
is not part of. That something is the key of a mapping shows only at the colon after it, so a place
where a key may have started is remembered (`SimpleKey`), and the tokens that start the key, and if
need be its block, are put in there later.
-/

set_option autoImplicit false

namespace PixelMachine.Yaml

/-- How a scalar is written: plain, or in quotes or as a block. -/
inductive Style where
  | plain
  | marked
  deriving DecidableEq

/-- The units of structure and content of a text. -/
inductive Token where
  /-- A line of three dashes. -/
  | documentStart
  /-- A line of three dots. -/
  | documentEnd
  /-- A block of entries starts. -/
  | blockSequenceStart
  /-- A block of keys with values starts. -/
  | blockMappingStart
  /-- A block ends. -/
  | blockEnd
  /-- The dash of an entry in a block. -/
  | blockEntry
  /-- An opening bracket. -/
  | flowSequenceStart
  /-- A closing bracket. -/
  | flowSequenceEnd
  /-- An opening brace. -/
  | flowMappingStart
  /-- A closing brace. -/
  | flowMappingEnd
  /-- A comma inside brackets or braces. -/
  | flowEntry
  /-- A key follows. -/
  | key
  /-- The value of a key follows. -/
  | value
  /-- A text. -/
  | scalar (text : String) (style : Style)
  deriving DecidableEq

/-- A place where a key may have started. -/
structure SimpleKey where
  /-- The number of tokens before it. -/
  index : Nat
  /-- Where it is in the text. -/
  mark : Mark
  /-- Whether nothing but a key can stand there. -/
  isRequired : Bool

/-- A text that is read to some place. -/
structure Lexer where
  /-- A number greater than the number of characters of the text, and so of anything in it. -/
  limit : Nat
  /-- The place, with what follows. -/
  cursor : Cursor
  /-- The tokens before it. -/
  tokens : Array Token
  /-- The column of the innermost block, or -1 outside of all blocks. -/
  indent : Int
  /-- The columns of the blocks around it, innermost first. -/
  outerIndents : List Int
  /-- Where the latest key may have started, on this level of brackets. -/
  key : Option SimpleKey
  /-- The same for each level around it, innermost first. -/
  outerKeys : List (Option SimpleKey)
  /-- Whether a key may start here. -/
  allowsKey : Bool

namespace Lexer

/-- The start of a text. -/
def start (cs : List Char) : Lexer := ⟨cs.length + 1, .start cs, #[], -1, [], none, [], true⟩

/-- Whether the place is inside of brackets or braces. -/
def inFlow (l : Lexer) : Bool := !l.outerKeys.isEmpty

/-- One more token. -/
def emit (l : Lexer) (t : Token) : Lexer := { l with tokens := l.tokens.push t }

/-- One more token that some characters make up. -/
def take (l : Lexer) (n : Nat) (t : Token) : Lexer :=
  { l with cursor := l.cursor.advance n }.emit t

/-! ## Blocks -/

/-- Starts a block with a token at a column, unless it is there already. The token stands before token
number `index`. Inside brackets columns have no meaning. -/
def openBlock (l : Lexer) (column index : Nat) (t : Token) : Lexer :=
  if l.inFlow || column ≤ l.indent then l
  else
    { l with
      indent := column, outerIndents := l.indent :: l.outerIndents
      tokens := l.tokens.insertIdxIfInBounds index t }

/-- Ends the blocks to the right of a column: `blocks` are the columns around the innermost one. -/
def closeBlocksFrom (column : Int) : List Int → Lexer → Lexer
  | [], l => l
  | outer :: rest, l =>
    if column < l.indent then
      closeBlocksFrom column rest { l.emit .blockEnd with indent := outer, outerIndents := rest }
    else l

/-- Ends the blocks to the right of a column. -/
def closeBlocks (l : Lexer) (column : Int) : Lexer :=
  if l.inFlow then l else closeBlocksFrom column l.outerIndents l

/-! ## Keys -/

/-- Forgets the place where a key may have started, which must not be one that has to be a key. -/
def dropKey (l : Lexer) : Except Error Lexer :=
  if l.key.any (·.isRequired) then .error .missingColon else .ok { l with key := none }

/-- Remembers the place as one where a key may start, if one may. -/
def saveKey (l : Lexer) : Except Error Lexer :=
  if l.allowsKey then do
    let l ← l.dropKey
    .ok { l with
      key := some ⟨l.tokens.size, l.cursor.mark, !l.inFlow && l.indent == l.cursor.column⟩ }
  else .ok l

/-- A key ends on its line and within 1024 bytes. -/
def isStale (l : Lexer) (key : SimpleKey) : Bool :=
  key.mark.line < l.cursor.mark.line || key.mark.offset + 1024 < l.cursor.mark.offset

/-- Forgets the place where a key may have started if it is too far back by now. The ones on the levels
around it are looked at when they are back on top, for a place never gets closer again. -/
def dropStaleKey (l : Lexer) : Except Error Lexer :=
  if l.key.any l.isStale then l.dropKey else .ok l

/-! ## Tokens -/

/-- Passes over blanks, comments and `lines` line breaks at most, and over the byte order mark that a line
may start with. On a new line of a block a key may start, and a tab is not passed over where one may. -/
def skipGap : (lines : Nat) → Lexer → Lexer
  | 0, l => l
  | lines + 1, l =>
    let passesTabs := l.inFlow || !l.allowsKey
    let c := l.cursor.skipByteOrderMark.skipWhile fun x => x = ' ' || (passesTabs && x = '\t')
    let c := if c.sees '#' then c.endOfLine else c
    if c.seesBreak then
      skipGap lines { l with cursor := c.nextLine, allowsKey := l.allowsKey || !l.inFlow }
    else { l with cursor := c }

/-- A line that starts or ends a document ends all blocks. -/
def documentMark (l : Lexer) (t : Token) : Except Error Lexer := do
  let l ← (l.closeBlocks (-1)).dropKey
  .ok ({ l with allowsKey := false }.take 3 t)

/-- An opening bracket or brace, which may start a key. -/
def openFlow (l : Lexer) (t : Token) : Except Error Lexer := do
  let l ← l.saveKey
  .ok ({ l with outerKeys := l.key :: l.outerKeys, key := none, allowsKey := true }.take 1 t)

/-- A closing bracket or brace. -/
def closeFlow (l : Lexer) (t : Token) : Except Error Lexer := do
  let l ← l.dropKey
  let l := match l.outerKeys with
    | key :: rest => { l with key := key, outerKeys := rest }
    | [] => l
  .ok ({ l with allowsKey := false }.take 1 t)

/-- A comma inside brackets or braces. -/
def flowEntry (l : Lexer) : Except Error Lexer := do
  let l ← l.dropKey
  .ok ({ l with allowsKey := true }.take 1 .flowEntry)

/-- An indicator that starts a block of its own, unless it is inside brackets. -/
def openIndicated (l : Lexer) (t : Token) : Except Error Lexer :=
  if l.inFlow then .ok l
  else if l.allowsKey then .ok (l.openBlock l.cursor.column l.tokens.size t)
  else .error .misplacedIndicator

/-- The dash of an entry. -/
def blockEntry (l : Lexer) : Except Error Lexer := do
  let l ← (← l.openIndicated .blockSequenceStart).dropKey
  .ok ({ l with allowsKey := true }.take 1 .blockEntry)

/-- The question mark of a key. -/
def explicitKey (l : Lexer) : Except Error Lexer := do
  let l ← (← l.openIndicated .blockMappingStart).dropKey
  .ok ({ l with allowsKey := !l.inFlow }.take 1 .key)

/-- The colon of a value. If a key may have started before it, it did. -/
def value (l : Lexer) : Except Error Lexer :=
  match l.key with
  | some key =>
    let l := { l with tokens := l.tokens.insertIdxIfInBounds key.index .key }
    let l := l.openBlock key.mark.column key.index .blockMappingStart
    .ok ({ l with key := none, allowsKey := false }.take 1 .value)
  | none => do
    let l ← l.openIndicated .blockMappingStart
    .ok ({ l with allowsKey := !l.inFlow }.take 1 .value)

/-- A scalar with the cursor after it. -/
def scalar (l : Lexer) (text : List Char) (style : Style) (after : Cursor) : Lexer :=
  { l with cursor := after }.emit (.scalar (String.ofList text) style)

/-- A block scalar. No key can start with it, and one may start after it. -/
def blockScalar (l : Lexer) (isFolded : Bool) : Except Error Lexer := do
  let l ← l.dropKey
  let (text, after) ← l.cursor.block l.limit isFolded l.indent
  .ok ({ l with allowsKey := true }.scalar text .marked after)

/-- A scalar in quotes, which may be a key. -/
def quotedScalar (l : Lexer) (quote : Quote) : Except Error Lexer := do
  let l ← l.saveKey
  let (text, after) ← l.cursor.quoted l.limit quote
  .ok ({ l with allowsKey := false }.scalar text .marked after)

/-- A plain scalar, which may be a key. After its last line another key may start. -/
def plainScalar (l : Lexer) : Except Error Lexer := do
  let l ← l.saveKey
  let plain ← l.cursor.plain l.limit l.inFlow (l.indent + 1)
  .ok ({ l with allowsKey := plain.endsLine }.scalar plain.text .plain plain.after)

/-- The characters that have a meaning of their own at the start of a token. -/
def isIndicator (c : Char) : Bool :=
  isFlowIndicator c || ['-', '?', ':', '#', '&', '*', '!', '|', '>', '\'', '"', '%', '@', '\x60'].elem c

/-- Whether a plain scalar can start with a character, before another one. -/
def startsPlain (inFlow : Bool) (c : Char) (next : Option Char) : Bool :=
  !(isIndicator c || isBlank c) || (c = '-' && !next.any isBlank) ||
    (!inFlow && (c = '?' || c = ':') && !endsWord next)

/-- The next token, which starts with a character at the cursor. -/
def next (l : Lexer) (x : Char) : Except Error Lexer :=
  let c := l.cursor
  let following := c.peekAt 1
  if c.column = 0 && x = '%' then .error .unsupported
  else if c.seesDocumentMark '-' then l.documentMark .documentStart
  else if c.seesDocumentMark '.' then l.documentMark .documentEnd
  else if x = '[' then l.openFlow .flowSequenceStart
  else if x = '\x7b' then l.openFlow .flowMappingStart
  else if x = ']' then l.closeFlow .flowSequenceEnd
  else if x = '\x7d' then l.closeFlow .flowMappingEnd
  else if x = ',' then l.flowEntry
  else if x = '-' && endsWord following then l.blockEntry
  else if x = '?' && (l.inFlow || endsWord following) then l.explicitKey
  else if x = ':' && (l.inFlow || endsWord following) then l.value
  else if x = '*' || x = '&' || x = '!' then .error .unsupported
  else if x = '|' && !l.inFlow then l.blockScalar false
  else if x = '>' && !l.inFlow then l.blockScalar true
  else if x = '\'' then l.quotedScalar .single
  else if x = '"' then l.quotedScalar .double
  else if startsPlain l.inFlow x following then l.plainScalar
  else .error .unexpectedCharacter

/-- The end of the text ends all blocks. -/
def finish (l : Lexer) : Except Error Lexer :=
  (l.closeBlocks (-1)).dropKey

/-- Reads the tokens up to the end of the text, which are `count` at most. -/
def run : (count : Nat) → Lexer → Except Error Lexer
  | 0, _ => .error .unexpectedCharacter
  | count + 1, l => do
    let l ← (l.skipGap l.limit).dropStaleKey
    let l := l.closeBlocks l.cursor.column
    match l.cursor.peek with
    | some x => run count (← l.next x)
    | none => l.finish

end Lexer

/-- The tokens of a text. -/
def Token.ofText (text : String) : Except Error (List Token) := do
  let cs := text.toList
  if cs.all isAllowed then
    let l := Lexer.start (uniformBreaks cs)
    let l ← l.run l.limit
    .ok l.tokens.toList
  else .error .controlCharacter

end PixelMachine.Yaml
