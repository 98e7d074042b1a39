import PixelMachine.Text.Hexadecimal
import PixelMachine.Yaml.Cursor

/-!
# Scalars

The three ways to write a text in YAML: plain, in quotes, and as a block of lines.

A plain or quoted scalar can go over several lines. Blanks around a line break are dropped, a single
line break becomes a space, and of several the first is dropped (`Gap.text`). A block keeps its lines,
or folds them in a similar way.
-/

set_option autoImplicit false

namespace PixelMachine.Yaml

/-! ## Between words -/

/-- The blanks and line breaks between two words of a scalar. -/
structure Gap where
  /-- The blanks before the first line break. -/
  blanks : List Char
  /-- The line breaks. -/
  breaks : List Char
  /-- What follows. -/
  after : Cursor

namespace Gap

/-- The text that a gap stands for. -/
def text (gap : Gap) : List Char :=
  match gap.breaks with
  | [] => gap.blanks
  | ['\n'] => [' ']
  | '\n' :: more => more
  | breaks => breaks

/-- Whether a gap breaks the line. -/
def isBroken (gap : Gap) : Bool := !gap.breaks.isEmpty

/-- The gap at a place, after the blanks and line breaks that belong to it already. On a new line a tab
left of column `indent` is refused. -/
def scan (indent : Int) (blanks breaks : List Char) (isNewLine : Bool) (mark : Mark) :
    List Char → Except Error Gap
  | [] => .ok ⟨blanks, breaks, ⟨mark, []⟩⟩
  | x :: rest =>
    if isBreak x then scan indent blanks (breaks ++ [x]) true mark.nextLine rest
    else if isBlank x then
      if isNewLine then
        if x = '\t' ∧ (mark.column : Int) < indent then .error .tabIndentation
        else scan indent blanks breaks true (mark.after [x]) rest
      else scan indent (blanks ++ [x]) breaks false (mark.after [x]) rest
    else .ok ⟨blanks, breaks, ⟨mark, x :: rest⟩⟩

end Gap

/-- The gap at a cursor; a tab left of column `indent` is refused after a line break. -/
def Cursor.gap (c : Cursor) (indent : Int) : Except Error Gap :=
  Gap.scan indent [] [] false c.mark c.rest

/-- The gap after an escaped line break: its blanks are dropped and its line breaks kept. -/
def Cursor.gapAfterEscape (c : Cursor) : Except Error Gap :=
  Gap.scan 0 [] [] true c.mark c.rest

/-- The text that some parts make up, the latest first. -/
def textOfParts (parts : List (List Char)) : List Char := parts.reverse.flatten

/-! ## Plain scalars -/

/-- The characters that end a word inside brackets. -/
def isFlowIndicator (c : Char) : Bool :=
  c = ',' || c = '[' || c = ']' || c = '\x7b' || c = '\x7d'

/-- The word of a plain scalar at the front. It ends at a blank, a line break, or a colon before one of
them; inside brackets also at a comma or a bracket. -/
def plainWord (inFlow : Bool) : List Char → Except Error (List Char)
  | [] => .ok []
  | c :: rest =>
    if isBlank c || isBreak c then .ok []
    else if inFlow && c = ':' && rest.head?.any (fun x => isFlowIndicator x || x = '?') then
      .error .colonInFlow
    else if c = ':' && endsWord rest.head? then .ok []
    else if inFlow && isFlowIndicator c then .ok []
    else do
      let word ← plainWord inFlow rest
      .ok (c :: word)

/-- A plain scalar with the cursor after it. -/
structure Plain where
  /-- The text. -/
  text : List Char
  /-- Whether the line was broken after its last word. -/
  endsLine : Bool
  /-- What follows. -/
  after : Cursor

/-- The rest of a plain scalar: `parts` is what precedes, the latest part first, and `between` what is
added before a further word. -/
def plainFrom (inFlow : Bool) (indent : Int) :
    Nat → (parts : List (List Char)) → (between : List Char) → (endsLine : Bool) → Cursor →
      Except Error Plain
  | 0, parts, _, endsLine, c => .ok ⟨textOfParts parts, endsLine, c⟩
  | limit + 1, parts, between, endsLine, c =>
    if c.seesAnyDocumentMark || c.sees '#' then .ok ⟨textOfParts parts, endsLine, c⟩
    else do
      let word ← plainWord inFlow c.rest
      if word.isEmpty then .ok ⟨textOfParts parts, endsLine, c⟩
      else
        let parts := word :: between :: parts
        let c := c.advance word.length
        if c.seesBlank || c.seesBreak then
          let gap ← c.gap indent
          if !inFlow && (gap.after.column : Int) < indent then
            .ok ⟨textOfParts parts, gap.isBroken, gap.after⟩
          else plainFrom inFlow indent limit parts gap.text gap.isBroken gap.after
        else .ok ⟨textOfParts parts, false, c⟩

/-- The plain scalar at a cursor, of `limit` words at most. Its lines are indented to column `indent` at
least. -/
def Cursor.plain (c : Cursor) (limit : Nat) (inFlow : Bool) (indent : Int) : Except Error Plain :=
  plainFrom inFlow indent limit [] [] false c

/-! ## Quoted scalars -/

/-- The character that an escape stands for, with the number of characters after the backslash. -/
def escape? : List Char → Option (Char × Nat)
  | '0' :: _ => some ('\x00', 1)
  | 'a' :: _ => some ('\x07', 1)
  | 'b' :: _ => some ('\x08', 1)
  | 't' :: _ => some ('\t', 1)
  | '\t' :: _ => some ('\t', 1)
  | 'n' :: _ => some ('\n', 1)
  | 'v' :: _ => some ('\x0b', 1)
  | 'f' :: _ => some ('\x0c', 1)
  | 'r' :: _ => some ('\r', 1)
  | 'e' :: _ => some ('\x1b', 1)
  | ' ' :: _ => some (' ', 1)
  | '"' :: _ => some ('"', 1)
  | '/' :: _ => some ('/', 1)
  | '\\' :: _ => some ('\\', 1)
  | 'N' :: _ => some ('\u0085', 1)
  | '_' :: _ => some ('\u00a0', 1)
  | 'L' :: _ => some ('\u2028', 1)
  | 'P' :: _ => some ('\u2029', 1)
  | 'x' :: rest => (Text.codePoint? 2 (rest.take 2)).map (·, 3)
  | 'u' :: rest => (Text.codePoint? 4 (rest.take 4)).map (·, 5)
  | 'U' :: rest => (Text.codePoint? 8 (rest.take 8)).map (·, 9)
  | _ => none

/-- The two kinds of quotes. -/
inductive Quote where
  | single
  | double
  deriving DecidableEq

/-- The character of a quote. -/
def Quote.char : Quote → Char
  | single => '\''
  | double => '"'

/-- The word of a quoted scalar at the front, of `limit` characters at most, up to a blank, a line break
or the closing quote, after what `done` holds, the latest first. It tells whether an escaped line break
ended it. -/
def quotedWord (quote : Quote) : Nat → List Char → Cursor → Except Error (List Char × Bool × Cursor)
  | 0, done, c => .ok (done.reverse, false, c)
  | limit + 1, done, c =>
    match c.peek with
    | none => .ok (done.reverse, false, c)
    | some x =>
      if isBlank x || isBreak x then .ok (done.reverse, false, c)
      else if quote = .single && x = '\'' && c.peekAt 1 == some '\'' then
        quotedWord quote limit ('\'' :: done) (c.advance 2)
      else if x = quote.char then .ok (done.reverse, false, c)
      else if quote = .double && x = '\\' then
        if (c.peekAt 1).any isBreak then .ok (done.reverse, true, (c.advance 1).nextLine)
        else
          match escape? (c.rest.drop 1) with
          | some (e, n) => quotedWord quote limit (e :: done) (c.advance (1 + n))
          | none => .error .badEscape
      else quotedWord quote limit (x :: done) (c.advance 1)

/-- The rest of a quoted scalar, of `limit` characters at most, up to its closing quote. `parts` is what
precedes, the latest part first. -/
def quotedFrom (quote : Quote) (limit : Nat) :
    Nat → (parts : List (List Char)) → Cursor → Except Error (List Char × Cursor)
  | 0, _, _ => .error .unclosedQuote
  | words + 1, parts, c =>
    if c.seesAnyDocumentMark || c.peek.isNone then .error .unclosedQuote
    else do
      let (word, isEscapedBreak, c) ← quotedWord quote limit [] c
      if c.sees quote.char then .ok (textOfParts (word :: parts), c.advance 1)
      else if isEscapedBreak then
        let gap ← c.gapAfterEscape
        quotedFrom quote limit words (gap.breaks :: word :: parts) gap.after
      else
        let gap ← c.gap 0
        quotedFrom quote limit words (gap.text :: word :: parts) gap.after

/-- The quoted scalar, of `limit` characters at most, at a cursor that stands on its opening quote. -/
def Cursor.quoted (c : Cursor) (limit : Nat) (quote : Quote) : Except Error (List Char × Cursor) :=
  quotedFrom quote limit limit [] (c.advance 1)

/-! ## Block scalars -/

/-- What happens to the line breaks at the end of a block. -/
inductive Chomping where
  /-- All are dropped. -/
  | strip
  /-- One is kept. -/
  | clip
  /-- All are kept. -/
  | keep
  deriving DecidableEq

/-- The indicators on the first line of a block: what happens to its last line breaks, and how far it
is indented, if that is told. -/
structure BlockHeader where
  /-- What happens to the last line breaks. -/
  chomping : Chomping
  /-- The indentation relative to what encloses the block. -/
  increment : Option Nat

/-- The chomping indicator at a cursor. -/
def Cursor.chomping? (c : Cursor) : Option Chomping :=
  match c.peek with
  | some '+' => some .keep
  | some '-' => some .strip
  | _ => none

/-- The digit at a cursor. -/
def Cursor.digit? (c : Cursor) : Option Nat :=
  match c.peek with
  | some x => if x.isDigit then some (x.toNat - 48) else none
  | none => none

/-- The indentation indicator at a cursor, if there is one, with the cursor after it. It is not
zero. -/
def Cursor.increment (c : Cursor) : Except Error (Option Nat × Cursor) :=
  match c.digit? with
  | some 0 => .error .blockHeader
  | some n => .ok (some n, c.advance 1)
  | none => .ok (none, c)

/-- The indicators of a block in either order, with the cursor after them. -/
def Cursor.blockHeader (c : Cursor) : Except Error (BlockHeader × Cursor) :=
  match c.chomping? with
  | some chomping => do
    let (increment, c) ← (c.advance 1).increment
    .ok (⟨chomping, increment⟩, c)
  | none => do
    let (increment, c) ← c.increment
    match increment, c.chomping? with
    | some n, some chomping => .ok (⟨chomping, some n⟩, c.advance 1)
    | increment, _ => .ok (⟨.clip, increment⟩, c)

/-- The empty lines, `limit` at most, and the indentation before a line of a block, with the greatest
column that the indentation of any of them reaches. An indentation of zero is not yet known, and takes
all spaces. -/
def blockBreaks (indent : Nat) :
    (limit : Nat) → List Char → Nat → Cursor → Except Error (List Char × Nat × Cursor)
  | 0, breaks, widest, c => .ok (breaks, widest, c)
  | limit + 1, breaks, widest, c =>
    let spaces := (c.rest.takeWhile (· = ' ')).length
    let c := c.advance (if indent = 0 then spaces else min spaces (indent - c.column))
    let widest := max widest c.column
    if (indent = 0 || c.column < indent) && c.sees '\t' then .error .tabIndentation
    else
      match c.peek with
      | some x =>
        if isBreak x then blockBreaks indent limit (breaks ++ [x]) widest c.nextLine
        else .ok (breaks, widest, c)
      | none => .ok (breaks, widest, c)

/-- The text of a block so far, with what its next line decides about. -/
structure Block where
  /-- The parts of the text, the latest first. -/
  parts : List (List Char)
  /-- The line break after the latest line. -/
  lastBreak : List Char
  /-- The line breaks of the empty lines after it. -/
  emptyLines : List Char
  /-- Whether the latest line starts with a blank. -/
  startsBlank : Bool

/-- What stands for the line breaks before the next line of a block. Folding makes a line break a space,
or nothing before empty lines, unless one of the two lines starts with a blank. -/
def Block.gap (isFolded : Bool) (block : Block) (nextBlank : Bool) : List Char :=
  let lead :=
    if isFolded && block.lastBreak == ['\n'] && !block.startsBlank && !nextBlank then
      if block.emptyLines.isEmpty then [' '] else []
    else block.lastBreak
  lead ++ block.emptyLines

/-- The lines of a block that are indented to column `indent`, `lines` of them at most, with `limit`
empty lines between two at most. -/
def blockLines (isFolded : Bool) (indent limit : Nat) :
    (lines : Nat) → Block → Cursor → Except Error (Block × Cursor)
  | 0, block, c => .ok (block, c)
  | lines + 1, block, c =>
    if c.column = indent && c.peek.isSome then do
      let isBlankLine := c.seesBlank
      let gap := block.gap isFolded isBlankLine
      let (line, c) := c.takeWhile fun _ => true
      let (lastBreak, c) := match c.peek with
        | some x => ([x], c.nextLine)
        | none => ([], c)
      let (emptyLines, _, c) ← blockBreaks indent limit [] 0 c
      blockLines isFolded indent limit lines
        ⟨line :: gap :: block.parts, lastBreak, emptyLines, isBlankLine⟩ c
    else .ok (block, c)

/-- The block scalar, of `limit` lines at most, at a cursor that stands on its indicator, inside of a
block that is indented to column `parent`, or -1 if there is none. -/
def Cursor.block (c : Cursor) (limit : Nat) (isFolded : Bool) (parent : Int) :
    Except Error (List Char × Cursor) := do
  let (header, c) ← (c.advance 1).blockHeader
  let c := c.skipWhile isBlank
  let c := if c.sees '#' then c.endOfLine else c
  if c.peek.isSome && !c.seesBreak then .error .blockHeader
  else
    let c := if c.seesBreak then c.nextLine else c
    let told := match header.increment with
      | some n => parent.toNat + n
      | none => 0
    let (emptyLines, widest, c) ← blockBreaks told limit [] 0 c
    let indent := if told = 0 then max (max widest (parent + 1).toNat) 1 else told
    let (block, c) ← blockLines isFolded indent limit limit ⟨[], [], emptyLines, false⟩ c
    let tail := match header.chomping with
      | .strip => []
      | .clip => block.lastBreak
      | .keep => block.lastBreak ++ block.emptyLines
    .ok (textOfParts (tail :: block.parts), c)

end PixelMachine.Yaml
