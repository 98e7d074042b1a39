import PixelMachine.Log.Record
import PixelMachine.Text.Alphanumeric
import PixelMachine.Text.Blank
import PixelMachine.Text.Bytes
import PixelMachine.Text.Decimal
import PixelMachine.Text.Pattern

/-!
# Log rules

A rule is about the entries from the parts of the program whose path starts with its target, or, with a
scope, about those of them that have a certain detail. It lets through what is at least as important as
its level.

A rule is written as a level alone; or as a target, a scope in square brackets, or both, with a level
after an equals sign. Without a level it lets everything through. A scope in braces names a detail. Any
other scope names a span of the program or the value of a detail in one, which is a number or a pattern;
no part of the program opens a span, so such a rule is about nothing.
-/

set_option autoImplicit false

namespace PixelMachine.Log

/-- What is let through of some entries: from a level on, or nothing. -/
structure Rule where
  /-- The start of the paths that the rule is about. -/
  target : String
  /-- The detail that an entry must have, if the rule asks for one. -/
  detail : Option String
  /-- The least level that it lets through, if it lets anything through. -/
  level : Option Level
  deriving DecidableEq

namespace Rule

/-- Whether a rule is about entries from a part of the program. -/
def covers (rule : Rule) (t : Target) : Bool := rule.target.toList.isPrefixOf t.path.toList

/-- Whether an entry has the detail that a rule asks for. -/
def isMetBy (rule : Rule) (h : Heading) : Bool := rule.detail.all h.mentions

/-- The more specific of two rules about the same entry: the one with the longer target, then one that
asks for a detail, then the one that asks for the later name. Of two that ask for the same the later one
is taken. -/
def moreSpecific (earlier later : Rule) : Rule :=
  if later.target.length < earlier.target.length then earlier
  else if earlier.target.length < later.target.length then later
  else
    match earlier.detail, later.detail with
    | some _, none => earlier
    | some a, some b => if b < a then earlier else later
    | none, _ => later

end Rule

/-! ## Levels -/

/-- The levels by number, and the one that lets nothing through. -/
def levelOfNumber? : Nat → Option (Option Level)
  | 0 => some none
  | 1 => some (some .error)
  | 2 => some (some .warn)
  | 3 => some (some .info)
  | 4 => some (some .debug)
  | 5 => some (some .trace)
  | _ => none

/-- The levels by name, and the one that lets nothing through. -/
def levelNames : List (String × Option Level) :=
  [("off", none), ("error", some .error), ("warn", some .warn), ("info", some .info),
    ("debug", some .debug), ("trace", some .trace)]

/-- The level that a text stands for: a number, or a name in capitals or not. -/
def level? (text : String) : Option (Option Level) :=
  match Text.decimal? text with
  | some n => levelOfNumber? n
  | none => levelNames.lookup text.toLower

/-! ## Reading -/

/-- What a rule says in square brackets. -/
inductive Scope where
  /-- Nothing. -/
  | everything
  /-- The name of a span. -/
  | span
  /-- The name of a span or nothing, and braces: the number of bytes before what they hold, and what
  they hold. -/
  | braces (isSpan : Bool) (before : Nat) (detail : List Char)
  deriving DecidableEq

/-- A rule as it is written. -/
structure Phrase where
  /-- What stands before the brackets and the equals sign. -/
  word : String
  /-- What stands in brackets. -/
  scope : Scope
  /-- What stands after the equals sign, if there is one. -/
  level : Option String
  deriving DecidableEq

/-- Whether a text can be the value of a detail: a pattern, or a number. Only a plus sign in front keeps a
number from being a pattern. -/
def isValue : List Char → Bool
  | '+' :: rest => Text.isRealNumber rest
  | cs => Text.isPattern cs

/-- What stands in a text between its first equals sign and the next one, if it has one at all. -/
def valueIn? (cs : List Char) : Option (List Char) :=
  match cs.dropWhile (· ≠ '=') with
  | [] => none
  | _ :: rest => some (rest.takeWhile (· ≠ '='))

/-- The scope in front of a text that follows an opening bracket and so many bytes, with the rest after
the closing one. Braces are not empty. -/
def scope? (before : Nat) (cs : List Char) : Option (Scope × List Char) :=
  let name := cs.takeWhile fun c => c ≠ ']' && c ≠ '\x7b'
  match cs.drop name.length with
  | ']' :: rest => some (.span, rest)
  | '\x7b' :: rest =>
    let detail := rest.takeWhile (· ≠ '\x7d')
    match rest.drop detail.length with
    | '\x7d' :: ']' :: rest =>
      if detail.isEmpty then none
      else some (.braces (!name.isEmpty) (before + Text.byteCount name + 1) detail, rest)
    | _ => none
  | _ => none

/-- Whether a rule can start with a character. -/
def canStart (c : Char) : Bool :=
  c = '[' || c = '-' || c = ':' || c = '_' || Text.isAlphanumeric c

namespace Phrase

/-- The rule that is written in a text without blanks in front. -/
def ofChars? (cs : List Char) : Option Phrase :=
  if cs.head?.any canStart then
    let word := cs.takeWhile fun c => c ≠ '=' && c ≠ '['
    match cs.drop word.length with
    | [] => some ⟨String.ofList word, .everything, none⟩
    | '=' :: level => some ⟨String.ofList word, .everything, some (String.ofList level)⟩
    | _ :: bracketed =>
      match scope? (Text.byteCount word + 1) bracketed with
      | some (scope, '=' :: level) =>
        some ⟨String.ofList word, scope, some (String.ofList level)⟩
      | some (scope, rest) =>
        if rest.all Text.isBlank then some ⟨String.ofList word, scope, none⟩ else none
      | none => none
  else none

/-- The level of a rule: everything if none is written after the equals sign, or no sign. -/
def level? (p : Phrase) : Option (Option Level) :=
  match p.level with
  | none | some "" => some (some .trace)
  | some text => Log.level? text

/-- The rule that a phrase stands for: one if it is about any entries at all. A word alone is a level
if it can be one. In braces stands the name of a detail, or its value after an equals sign. -/
def rule? (p : Phrase) : Option (Option Rule) := do
  let level ← p.level?
  match p.scope, p.level with
  | .everything, none =>
    match Log.level? p.word with
    | some level => some (some ⟨"", none, level⟩)
    | none => some (some ⟨p.word, none, level⟩)
  | .everything, some _ => some (some ⟨p.word, none, level⟩)
  | .span, _ => some none
  | .braces isSpan _ detail, _ =>
    match valueIn? detail with
    | some value => if isValue value then some none else none
    | none =>
      some (if isSpan then none else some ⟨p.word, some (String.ofList detail), level⟩)

/-- The phrase with what stands in another text at the place of its braces. -/
def takenFrom (p : Phrase) (cs : List Char) : Phrase :=
  match p.scope with
  | .braces isSpan before detail =>
    { p with scope := .braces isSpan before (Text.cut before (Text.byteCount detail) cs) }
  | _ => p

end Phrase

/-- The rule that a text stands for: one if it is about any entries at all. Blanks in front do not count
for where the parts of a rule stand, but the parts are taken from the text with them. So with a blank in
front, a text is no rule if it has a level, and else a rule about nothing. -/
def Rule.ofText? (text : String) : Option (Option Rule) := do
  let cs := text.toList
  let phrase ← Phrase.ofChars? (cs.dropWhile Text.isBlank)
  let rule ← (phrase.takenFrom cs).rule?
  if cs.head?.any Text.isBlank then if phrase.level.isSome then none else some none else some rule

end PixelMachine.Log
