/-!
# Why a text is not YAML

The causes for which a text is refused before anything is known of its content.
-/

set_option autoImplicit false

namespace PixelMachine.Yaml

/-- Why a text is not one YAML document of the kind that this library reads. -/
inductive Error where
  /-- A control character. -/
  | controlCharacter
  /-- A character that starts nothing. -/
  | unexpectedCharacter
  /-- An anchor, an alias, a tag or a directive. -/
  | unsupported
  /-- A tab where an indentation was expected. -/
  | tabIndentation
  /-- A quoted scalar without its closing quote. -/
  | unclosedQuote
  /-- An escape that stands for no character. -/
  | badEscape
  /-- Something else than indicators on the first line of a block scalar. -/
  | blockHeader
  /-- A colon that ends a plain scalar inside brackets without a space. -/
  | colonInFlow
  /-- A line that has to be a key has no colon. -/
  | missingColon
  /-- An entry, a key or a value in a place where none can start. -/
  | misplacedIndicator
  /-- No value where there has to be one. -/
  | expectedValue
  /-- No further entry where a collection goes on. -/
  | expectedEntry
  /-- A second document. -/
  | furtherDocument
  deriving DecidableEq

/-- What is reported of a text that is refused. -/
def Error.message : Error → String
  | controlCharacter => "control characters are not allowed"
  | unexpectedCharacter => "found a character that cannot start any token"
  | unsupported => "anchors, aliases, tags and directives are not supported"
  | tabIndentation => "found a tab where an indentation is expected"
  | unclosedQuote => "found an unexpected end of a quoted scalar"
  | badEscape => "found an unknown escape"
  | blockHeader => "did not find a comment or a line break after a block scalar indicator"
  | colonInFlow => "found an unexpected colon"
  | missingColon => "could not find an expected colon"
  | misplacedIndicator => "entries, keys and values are not allowed in this place"
  | expectedValue => "did not find an expected value"
  | expectedEntry => "did not find an expected entry"
  | furtherDocument => "found more than one document"

end PixelMachine.Yaml
