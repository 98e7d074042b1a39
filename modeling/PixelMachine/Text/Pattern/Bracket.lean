import PixelMachine.Text.Pattern.Sign

/-!
# Sets of characters in brackets

A set holds characters, ranges of them, classes with and without names, and other sets in brackets. A
caret in front stands for all other characters. Doubled signs join two sets: what is in both, what is in
the first only, and what is in one of them only.

Of a set it is kept how deep it is nested, and whether it goes beyond ASCII where it is a set of bytes: it
holds all of the bytes beyond ASCII or none of them, for only a negation brings them in.
-/

set_option autoImplicit false

namespace PixelMachine.Text.Pattern

/-- The nesting of something that is made of parts with some nestings: one part alone is not nested
deeper by it. -/
def nesting : List Nat → Nat
  | [] => 0
  | [n] => n
  | n :: ns => ns.foldl max n + 1

/-- What is kept of a set. -/
structure Members where
  /-- How deep it is nested. -/
  nesting : Nat
  /-- Whether it has the bytes beyond ASCII. -/
  isWide : Bool
  deriving DecidableEq

namespace Members

/-- A single character, range or class of ASCII. -/
def single : Members := ⟨0, false⟩

/-- All members of some sets. -/
def union (sets : List Members) : Members :=
  ⟨Pattern.nesting (sets.map (·.nesting)), sets.any (·.isWide)⟩

/-- A sign as a set. -/
def ofSign? (o : Options) : Sign → Option Members
  | .char c _ => if (if o.isUnicode then !o.ignoresCase else c.toNat < 0x80) then some single else none
  | .class_ isNegated => if !o.isUnicode && !isNegated then some single else none
  | .edge | .boundary => none

/-- A range of characters as a set. -/
def ofRange? (o : Options) : Sign → Sign → Option Members
  | .char a i, .char b j => do
    let _ ← ofSign? o (.char a i)
    let _ ← ofSign? o (.char b j)
    if a ≤ b then some single else none
  | _, _ => none

/-- A class with a name, or all other characters, as a set. -/
def ofClass? (o : Options) (isNegated : Bool) : Option Members :=
  if o.isUnicode && o.ignoresCase then none else some ⟨0, isNegated⟩

end Members

/-- The names of classes. -/
def classNames : List String :=
  ["alnum", "alpha", "ascii", "blank", "cntrl", "digit", "graph", "lower", "print", "punct", "space",
    "upper", "word", "xdigit"]

/-- The class with a name that follows an opening bracket, with what follows it: whether all other
characters are meant. -/
def namedClass? : List Char → Option (Bool × List Char)
  | ':' :: cs =>
    let (isNegated, cs) := match cs with
      | '^' :: cs => (true, cs)
      | cs => (false, cs)
    let name := cs.takeWhile (· ≠ ':')
    match cs.drop name.length with
    | ':' :: ']' :: rest =>
      if classNames.contains (String.ofList name) then some (isNegated, rest) else none
    | _ => none
  | _ => none

/-- The ways to join two sets. -/
inductive Junction where
  | both
  | firstOnly
  | oneOnly
  deriving DecidableEq

/-- Whether something is in the joined set that is in the first one, in the second one. -/
def Junction.holds : Junction → Bool → Bool → Bool
  | both, a, b => a && b
  | firstOnly, a, b => a && !b
  | oneOnly, a, b => a != b

/-- The way that a doubled sign joins two sets. -/
def junction? : Char → Option Junction
  | '&' => some .both
  | '-' => some .firstOnly
  | '~' => some .oneOnly
  | _ => none

/-- A set whose closing bracket is not reached. -/
structure OpenSet where
  /-- All characters but its members are meant. -/
  isNegated : Bool
  /-- Only minus signs were read. -/
  isStart : Bool
  /-- What the members are joined to. -/
  first : Option (Members × Junction)
  /-- The members, the latest first. -/
  members : List Members

namespace OpenSet

/-- The set after its opening bracket, with what follows. -/
def enter (o : Options) (cs : List Char) : OpenSet × List Char :=
  match o.skip cs with
  | '^' :: cs => (⟨true, true, none, []⟩, cs)
  | cs => (⟨false, true, none, []⟩, cs)

/-- Whether a character stands for itself in any case: minus signs in front, and a closing bracket that
is the first member. -/
def isPlain (s : OpenSet) (c : Char) : Bool :=
  s.isStart && (c = '-' || (c = ']' && s.members.isEmpty))

/-- The set with one more member. -/
def add (s : OpenSet) (m : Members) : OpenSet := { s with isStart := false, members := m :: s.members }

/-- What the set holds so far, before a negation. -/
def value (s : OpenSet) : Members :=
  let last := Members.union s.members
  match s.first with
  | none => last
  | some (first, way) =>
    ⟨nesting [first.nesting, last.nesting], way.holds first.isWide last.isWide⟩

/-- The set after a doubled sign. -/
def join (s : OpenSet) (way : Junction) : OpenSet :=
  { s with isStart := false, first := some (s.value, way), members := [] }

/-- The set at its closing bracket: a set of bytes must stay in ASCII. -/
def close? (o : Options) (s : OpenSet) : Option Members :=
  let isWide := s.value.isWide != s.isNegated
  if !o.isUnicode && isWide then none else some ⟨s.value.nesting + 1, isWide⟩

end OpenSet

/-- The character or range at the front of a text inside brackets, with what follows it. -/
def readMember? (o : Options) (cs : List Char) : Option (Members × List Char) := do
  let (first, rest) ← Sign.read? o cs
  match o.skip rest with
  | '-' :: rest =>
    if o.peek? rest = some ']' || o.peek? rest = some '-' then
      some (← Members.ofSign? o first, '-' :: rest)
    else
      let (last, rest) ← Sign.read? o (o.skip rest)
      some (← Members.ofRange? o first last, rest)
  | rest => some (← Members.ofSign? o first, rest)

/-- The set that a text goes on with inside a set and others around it, with what follows it. `limit`
bounds the number of its parts. -/
def readSet? (o : Options) : Nat → OpenSet → List OpenSet → List Char → Option (Members × List Char)
  | 0, _, _, _ => none
  | limit + 1, s, outer, cs =>
    match o.skip cs with
    | [] => none
    | c :: rest =>
      if s.isPlain c then do
        let m ← Members.ofSign? o (.char c false)
        readSet? o limit { s.add m with isStart := c = '-' } outer rest
      else if c = ']' then do
        let m ← s.close? o
        match outer with
        | [] => some (m, rest)
        | t :: outer => readSet? o limit (t.add m) outer rest
      else if c = '[' then
        match namedClass? rest with
        | some (isNegated, rest) => do
          readSet? o limit (s.add (← Members.ofClass? o isNegated)) outer rest
        | none =>
          let (t, rest) := OpenSet.enter o rest
          readSet? o limit t (s :: outer) rest
      else
        match if rest.head? = some c then junction? c else none with
        | some way => readSet? o limit (s.join way) outer (rest.drop 1)
        | none => do
          let (m, rest) ← readMember? o (c :: rest)
          readSet? o limit (s.add m) outer rest

/-- The set whose opening bracket is in front of a text, with what follows it. -/
def bracket? (o : Options) (cs : List Char) : Option (Members × List Char) :=
  let (s, rest) := OpenSet.enter o cs
  readSet? o (cs.length + 1) s [] rest

end PixelMachine.Text.Pattern
