import PixelMachine.Text.Quoted

/-!
# Log records

A record is one entry of the log: how important it is, which part of the program it comes from, what
happened, and named details. Its text is one line. What happened may quote a text from outside, so a
character by which such a text could command the terminal that shows the log is written as its code.
-/

set_option autoImplicit false

namespace PixelMachine.Log

/-- How important a record is. -/
inductive Level where
  | trace
  | debug
  | info
  | warn
  | error
  deriving DecidableEq

namespace Level

/-- The place of a level in the order of importance. -/
def rank : Level → Nat
  | trace => 0
  | debug => 1
  | info => 2
  | warn => 3
  | error => 4

/-- The word for a level at the start of a line. -/
def word : Level → String
  | trace => "TRACE"
  | debug => "DEBUG"
  | info => "INFO"
  | warn => "WARN"
  | error => "ERROR"

end Level

/-- The part of the program that a record comes from. -/
inductive Target where
  /-- The machine that steps over pixels. -/
  | machine
  /-- The handlers of its instructions. -/
  | handlers
  /-- What starts and bounds runs. -/
  | driver
  /-- The command line. -/
  | commandLine
  deriving DecidableEq

/-- The path of a part of the program, by whose start a filter addresses it. -/
def Target.path : Target → String
  | machine => "palettette_vm::interpreter"
  | handlers => "palettette_vm::handlers"
  | driver => "palettette_run::driver"
  | commandLine => "palettette_run"

/-- What decides whether an entry of the log is shown. -/
structure Heading where
  /-- How important it is. -/
  level : Level
  /-- Where it comes from. -/
  target : Target
  /-- The names of its details, in the order of their line. -/
  details : List String
  deriving DecidableEq

/-- Whether an entry has something of this name: its message, or one of its details. -/
def Heading.mentions (h : Heading) (name : String) : Bool :=
  name = "message" || h.details.contains name

/-- One entry of the log. -/
structure Record where
  /-- How important it is. -/
  level : Level
  /-- Where it comes from. -/
  target : Target
  /-- What happened. -/
  message : String
  /-- Named details, in the order of their line. -/
  fields : List (String × String)
  deriving DecidableEq

/-- A character of a message. The bell, the backspace, the form feed, the escape and the delete
character are written as two hexadecimal digits, and the control characters after ASCII as a code point;
tabs and line breaks stay. -/
def messageChar (c : Char) : String :=
  match c with
  | '\x07' => "\\x07"
  | '\x08' => "\\x08"
  | '\x0c' => "\\x0c"
  | '\x1b' => "\\x1b"
  | '\x7f' => "\\x7f"
  | c => if '\u0080' ≤ c ∧ c ≤ '\u009f' then Text.codePoint c else c.toString

/-- The line of a record: level, message, and each detail after its name and an equals sign. -/
def Record.line (r : Record) : String :=
  r.fields.foldl (fun line field => line ++ " " ++ field.1 ++ "=" ++ field.2)
    (r.level.word ++ " " ++ String.join (r.message.toList.map messageChar))

end PixelMachine.Log
