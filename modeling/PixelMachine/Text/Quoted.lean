import PixelMachine.Text.Printable

/-!
# Quoted text

Text in detailed reports that has to be told apart from its surroundings stands in double quotes. Quotes,
backslashes and the common control characters are escaped with a letter, and every other character that
cannot be shown by itself with its code point.
-/

set_option autoImplicit false

namespace PixelMachine.Text

/-- A character by its code point, in hexadecimal digits. -/
def codePoint (c : Char) : String :=
  "\\u\x7b" ++ String.ofList (Nat.toDigits 16 c.toNat) ++ "\x7d"

/-- A character inside quotes. -/
def quotedChar (c : Char) : String :=
  match c with
  | '\x00' => "\\0"
  | '\t' => "\\t"
  | '\n' => "\\n"
  | '\r' => "\\r"
  | '"' => "\\\""
  | '\\' => "\\\\"
  | c => if isPrintable c then c.toString else codePoint c

/-- A text in quotes. -/
def quoted (text : String) : String :=
  "\"" ++ String.join (text.toList.map quotedChar) ++ "\""

/-- A case with named contents, in braces after its name, each after its label and a colon. -/
def labelled (name : String) (contents : List (String × String)) : String :=
  name ++ " \x7b " ++ String.intercalate ", " (contents.map fun (label, text) => label ++ ": " ++ text)
    ++ " \x7d"

/-- A case with one content, as in `Name(1)`. -/
def wrapped (name content : String) : String := name ++ "(" ++ content ++ ")"

end PixelMachine.Text
