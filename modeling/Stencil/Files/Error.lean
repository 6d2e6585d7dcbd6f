import Stencil.Text.Basic

/-!
# File errors

Why an operation on files fails, with the texts and numbers that the operating system gives.
-/

namespace Stencil

/-- A reason for which an operation on files fails. -/
inductive FileError
  | notFound
  | busy
  | exists
  | notDirectory
  | isDirectory
  | invalidArgument
  | nameTooLong
  | linkLoop
  /-- A path holds a NUL character. -/
  | nulInPath
  /-- A file that is read as text is not well-formed UTF-8. -/
  | notUtf8
  deriving DecidableEq, Repr

/-- The text that a user is shown. -/
def FileError.message : FileError → Text
  | notFound => "No such file or directory (os error 2)".toList
  | busy => "Device or resource busy (os error 16)".toList
  | .exists => "File exists (os error 17)".toList
  | notDirectory => "Not a directory (os error 20)".toList
  | isDirectory => "Is a directory (os error 21)".toList
  | invalidArgument => "Invalid argument (os error 22)".toList
  | nameTooLong => "File name too long (os error 36)".toList
  | linkLoop => "Too many levels of symbolic links (os error 40)".toList
  | nulInPath => "file name contained an unexpected NUL byte".toList
  | notUtf8 => "stream did not contain valid UTF-8".toList

end Stencil
