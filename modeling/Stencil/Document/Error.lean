import Stencil.Files.Error
import Stencil.Files.Path

/-!
# Output errors

Why a document cannot be written.
-/

namespace Stencil

/-- Why a file of the output directory cannot be written. -/
inductive WriteFault
  | file (error : FileError)
  /-- The highest number is taken. -/
  | exhausted
  /-- Every number that was tried is taken. -/
  | noFreeNumber
  deriving DecidableEq, Repr

/-- The text that a user is shown. -/
def WriteFault.message : WriteFault → Text
  | file e => e.message
  | exhausted => "sequence numbers in the output directory are exhausted".toList
  | noFreeNumber => "no free sequence number in the output directory".toList

/-- A reason for which a document cannot be written. -/
inductive OutputError
  | createDirectory (dir : Path) (error : FileError)
  | write (path : Path) (fault : WriteFault)
  deriving DecidableEq, Repr

/-- The text that a user is shown. -/
def OutputError.message : OutputError → Text
  | createDirectory dir e =>
    "Failed to create output directory ".toList ++ dir.text ++ ": ".toList ++ e.message
  | write path fault => "Failed to write ".toList ++ path.text ++ ": ".toList ++ fault.message

end Stencil
