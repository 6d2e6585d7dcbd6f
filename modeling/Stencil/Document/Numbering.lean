import Stencil.Files.System

/-!
# Sequence numbers

The number of the next document is one above the highest number in the directory. A directory that
cannot be read holds no numbers.
-/

namespace Stencil.Numbering

/-- The numbers stay below this bound. -/
def limit : Nat := UInt32.size

/-- The number of a file name that is three digits or more, a hyphen, anything in one line, and the
extension. A number beyond the limit does not count. -/
def numberOf? (extension name : Text) : Option Nat :=
  let ds := name.takeWhile Char.isDigit
  match name.dropWhile Char.isDigit with
  | '-' :: rest =>
    match Text.dropMark? ('.' :: extension).reverse rest.reverse with
    | some middle =>
      if ds.length < 3 ∨ '\n' ∈ middle ∨ limit ≤ Text.digitsValue ds then none
      else some (Text.digitsValue ds)
    | none => none
  | _ => none

/-- The highest number of the given file names, or 0. -/
def highest (extension : Text) (names : List Text) : Nat :=
  (names.filterMap (numberOf? extension)).foldl max 0

/-- The next number in a directory; `none` if the highest one is taken. -/
def next? (files : FileSystem) (dir : Path) (extension : Text) : Option Nat :=
  match files.names dir with
  | .error _ => some 1
  | .ok names =>
    let n := highest extension names + 1
    if n < limit then some n else none

end Stencil.Numbering
