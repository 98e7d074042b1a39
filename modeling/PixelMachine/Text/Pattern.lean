import PixelMachine.Text.Alphanumeric
import PixelMachine.Text.Pattern.Bracket

/-!
# Patterns

A pattern describes texts. It is made of alternatives with bars between them, in which signs, sets of
characters in brackets and groups in parentheses follow each other, each perhaps with signs of repetition
after it. A group may have a name, and options may stand in front of it or alone; they hold up to the end
of the group that they stand in.

What a pattern describes is not needed here, only whether a text is one (`isPattern`). So of the parts of
a pattern only their nesting is kept, for it has a limit.
-/

set_option autoImplicit false

namespace PixelMachine.Text

namespace Pattern

/-- The greatest nesting of a pattern. -/
def maxNesting : Nat := 250

/-- What is kept of a part of a pattern. -/
structure Part where
  /-- How deep it is nested. -/
  nesting : Nat
  /-- Whether a sign of repetition can follow. -/
  canRepeat : Bool
  deriving DecidableEq

/-- A group whose end is not reached, or the whole pattern. -/
structure OpenGroup where
  /-- The options at the place that is reached. -/
  options : Options
  /-- The nestings of the alternatives before the current one, the latest first. -/
  alternatives : List Nat
  /-- The parts of the current alternative, the latest first. -/
  parts : List Part

namespace OpenGroup

/-- A group of which nothing is read. -/
def start (o : Options) : OpenGroup := ⟨o, [], []⟩

/-- The nesting of the current alternative. -/
def alternative (g : OpenGroup) : Nat := Pattern.nesting (g.parts.map (·.nesting))

/-- The nesting of what is read. -/
def nesting (g : OpenGroup) : Nat := Pattern.nesting (g.alternative :: g.alternatives)

/-- The group with one more part. -/
def add (g : OpenGroup) (nesting : Nat) : OpenGroup := { g with parts := ⟨nesting, true⟩ :: g.parts }

/-- The group after a bar. -/
def nextAlternative (g : OpenGroup) : OpenGroup :=
  { g with alternatives := g.alternative :: g.alternatives, parts := [] }

/-- The group with other options from here on. -/
def setOptions (g : OpenGroup) (o : Options) : OpenGroup :=
  { g with options := o, parts := ⟨0, false⟩ :: g.parts }

/-- The group after a sign of repetition. -/
def repeatLast? (g : OpenGroup) : Option OpenGroup :=
  match g.parts with
  | p :: parts => if p.canRepeat then some { g with parts := ⟨p.nesting + 1, true⟩ :: parts } else none
  | [] => none

end OpenGroup

/-- How far a pattern is read. -/
structure Reading where
  /-- The names of the groups. -/
  names : List (List Char)
  /-- The innermost group. -/
  group : OpenGroup
  /-- The groups around it, from the inside out. -/
  outer : List OpenGroup

/-- Whether some characters can name a group. -/
def isName : List Char → Bool
  | [] => false
  | c :: cs =>
    (c = '_' || isAlphabetic c) &&
      cs.all fun c => c = '_' || c = '.' || c = '[' || c = ']' || isAlphanumeric c

/-- Whether some characters are options, each once and not with a minus sign at the end. -/
def areOptions (written : List Char) : Bool :=
  written.all (fun c => c = '-' || Options.letters.contains c) && written.Nodup &&
    written.getLast? ≠ some '-'

namespace Reading

/-- The start of a pattern. -/
def start : Reading := ⟨[], .start .start, []⟩

/-- The reading with another innermost group. -/
def setGroup (r : Reading) (g : OpenGroup) : Reading := { r with group := g }

/-- The reading inside a new group. -/
def enter (r : Reading) (o : Options) : Reading :=
  { r with group := .start o, outer := r.group :: r.outer }

/-- The reading after the end of a group. The options before it hold again. -/
def leave? (r : Reading) : Option Reading :=
  match r.outer with
  | [] => none
  | g :: outer => some { r with group := g.add (r.group.nesting + 1), outer := outer }

/-- The reading inside a group with a name, with what follows the name. -/
def enterNamed? (r : Reading) (cs : List Char) : Option (Reading × List Char) :=
  let name := cs.takeWhile (· ≠ '>')
  match cs.drop name.length with
  | _ :: rest =>
    if isName name && !r.names.contains name then
      some ({ r with names := name :: r.names }.enter r.group.options, rest)
    else none
  | [] => none

/-- The reading after options, with what follows: inside a group, or in the same group if they stand
alone. -/
def setOptions? (r : Reading) (cs : List Char) : Option (Reading × List Char) :=
  let written := cs.takeWhile fun c => c ≠ ':' && c ≠ ')'
  if areOptions written then
    let changed := r.group.options.change written
    match cs.drop written.length with
    | ':' :: rest => some (r.enter changed, rest)
    | _ :: rest =>
      if written.isEmpty then none else some (r.setGroup (r.group.setOptions changed), rest)
    | [] => none
  else none

/-- The reading after an opening parenthesis, with what follows. -/
def parenthesis? (r : Reading) (cs : List Char) : Option (Reading × List Char) :=
  match r.group.options.skip cs with
  | '?' :: 'P' :: '<' :: cs => r.enterNamed? cs
  | '?' :: '<' :: cs => r.enterNamed? cs
  | '?' :: cs => r.setOptions? cs
  | cs => some (r.enter r.group.options, cs)

/-- The reading after the next sign, set or parenthesis, with what follows. Repetitions cannot be
counted. -/
def next? (r : Reading) : List Char → Option (Reading × List Char)
  | [] => none
  | c :: cs =>
    match c with
    | '(' => r.parenthesis? cs
    | ')' => r.leave?.map (·, cs)
    | '|' => some (r.setGroup r.group.nextAlternative, cs)
    | '[' => do
      let (m, rest) ← bracket? r.group.options cs
      some (r.setGroup (r.group.add m.nesting), rest)
    | '*' | '+' | '?' => do
      let g ← r.group.repeatLast?
      some (r.setGroup g, if cs.head? = some '?' then cs.drop 1 else cs)
    | '\x7b' => none
    | '.' => if r.group.options.isUnicode then some (r.setGroup (r.group.add 0), cs) else none
    | '^' | '$' => some (r.setGroup (r.group.add 0), cs)
    | c => do
      let (s, rest) ← Sign.read? r.group.options (c :: cs)
      if s.isAllowed r.group.options then some (r.setGroup (r.group.add 0), rest) else none

/-- The reading at the end of a text, of `limit` signs, sets and parentheses at most. -/
def finish? : Nat → Reading → List Char → Option Reading
  | 0, _, _ => none
  | limit + 1, r, cs =>
    match r.group.options.skip cs with
    | [] => some r
    | c :: cs => do
      let (r, rest) ← r.next? (c :: cs)
      finish? limit r rest

/-- Whether a pattern may end: no group is open, and it is not nested too deep. -/
def isComplete (r : Reading) : Bool := r.outer.isEmpty && r.group.nesting ≤ maxNesting

end Reading

end Pattern

/-- Whether a text is a pattern. -/
def isPattern (cs : List Char) : Bool :=
  (Pattern.Reading.finish? (cs.length + 1) .start cs).any (·.isComplete)

end PixelMachine.Text
