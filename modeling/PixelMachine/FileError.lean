/-!
# Why a file cannot be read
-/

set_option autoImplicit false

namespace PixelMachine

/-- Why a file cannot be read as text. -/
inductive FileError where
  /-- There is no such file. -/
  | notFound
  /-- It is a directory. -/
  | isDirectory
  /-- Its path goes on after a file. -/
  | notDirectory
  /-- Its path, or a part of it, is too long. -/
  | nameTooLong
  /-- It may not be read. -/
  | forbidden
  /-- Its bytes are not UTF-8. -/
  | notUtf8
  /-- Anything else, with what the system says about it. -/
  | other (reason : String)
  deriving DecidableEq

/-- What is reported of a file that cannot be read. -/
def FileError.message : FileError → String
  | notFound => "No such file or directory (os error 2)"
  | isDirectory => "Is a directory (os error 21)"
  | notDirectory => "Not a directory (os error 20)"
  | nameTooLong => "File name too long (os error 36)"
  | forbidden => "Permission denied (os error 13)"
  | notUtf8 => "stream did not contain valid UTF-8"
  | other reason => reason

end PixelMachine
