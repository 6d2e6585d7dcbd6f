import Stencil.Files.System
import Stencil.Provider.Error
import Stencil.Text.Utf8

/-!
# Embedding files

What a file puts in the place of a placeholder. The text of a very large file is cut short behind a
banner, and whatever the reader should know is a warning: bytes that are not UTF-8, a large file, a
cut.
-/

namespace Stencil

/-- The text of a file with what is worth knowing about it. -/
structure Embedded where
  content : Text
  /-- The number of bytes of the file. -/
  size : Nat
  truncated : Bool
  warnings : List Text
  deriving DecidableEq, Repr

namespace Embedded

/-- Files with more bytes than this are put in with a warning. -/
def warnAbove : Nat := 102400

/-- Files with more bytes than this are cut short. -/
def truncateAbove : Nat := 512000

/-- The number of characters that are left of a file that is cut short. -/
def charsKept : Nat := 50000

/-- A number of bytes in units of 1024, to the nearest tenth. Halfway between two tenths, the even
one counts. -/
def kilobytes (size : Nat) : Text :=
  let floor := size * 10 / 1024
  let rest := size * 10 % 1024
  let tenths := if 512 < rest ∨ (rest = 512 ∧ floor % 2 = 1) then floor + 1 else floor
  Text.ofNat (tenths / 10) ++ '.' :: Text.ofNat (tenths % 10)

/-- The banner above a file that is cut short. -/
def banner (p : Path) (size : Nat) : Text :=
  "[Truncated: ".toList ++ p.text ++ " is ".toList ++ Text.ofNat size ++ " bytes (".toList
    ++ kilobytes size ++ " KB); showing the first ".toList ++ Text.ofNat charsKept
    ++ " characters]\n\n".toList

/-- The warning about bytes that are not UTF-8. -/
def invalidWarning (p : Path) : Text :=
  p.text ++ " is not valid UTF-8; invalid bytes were replaced".toList

/-- The warning about a file that is cut short. -/
def truncatedWarning (p : Path) (size : Nat) : Text :=
  p.text ++ " (".toList ++ kilobytes size ++ " KB) was truncated to ".toList
    ++ Text.ofNat charsKept ++ " characters".toList

/-- The warning about a large file. -/
def largeWarning (p : Path) (size : Nat) : Text :=
  p.text ++ " is large (".toList ++ kilobytes size ++ " KB) and was included in full".toList

/-- What the bytes of a file put into a document. -/
def ofBytes (p : Path) (bytes : List UInt8) : Embedded :=
  let size := bytes.length
  let text := Utf8.decodeLossy bytes
  let invalid := if (Utf8.decode? bytes).isSome then [] else [invalidWarning p]
  if truncateAbove < size then
    { content := banner p size ++ text.take charsKept
      size
      truncated := true
      warnings := invalid ++ [truncatedWarning p size] }
  else
    { content := text
      size
      truncated := false
      warnings := invalid ++ if warnAbove < size then [largeWarning p size] else [] }

/-- Reads the file that a path leads to. -/
def load (files : FileSystem) (p : Path) : Except ProviderError Embedded :=
  match files.read p with
  | .ok bytes => .ok (ofBytes p bytes)
  | .error e => .error (.file e)

end Embedded

end Stencil
