import Stencil.Files.Path

/-!
# Output settings

Where compiled documents go and how their files are named: with a number of at least three digits
before the name, or by the name alone.
-/

namespace Stencil

/-- Where documents go and how their files are named. -/
structure OutputSettings where
  dir : Path := ⟨"prompts/out".toList⟩
  /-- Whether a number goes before the name. -/
  numbered : Bool := true
  /-- The extension as it was given, perhaps with a dot. -/
  givenExtension : Text := "md".toList
  deriving DecidableEq, Repr

namespace OutputSettings

/-- The extension without a dot before it. -/
def extension (s : OutputSettings) : Text :=
  s.givenExtension.dropWhile (· = '.')

/-- The file name of a document. The number does not matter if files are not numbered. -/
def fileName (s : OutputSettings) (number : Nat) (name : Text) : Text :=
  let file := name ++ '.' :: s.extension
  if s.numbered then Text.ofNatPadded 3 number ++ '-' :: file else file

/-- The path of a document. -/
def target (s : OutputSettings) (number : Nat) (name : Text) : Path :=
  s.dir.join ⟨s.fileName number name⟩

end OutputSettings

end Stencil
