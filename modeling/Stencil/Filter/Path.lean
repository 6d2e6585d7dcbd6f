import Stencil.Filter.Argument
import Stencil.Glob.Match
import Stencil.Provider.Candidate

/-!
# Path filters

The filters of files: the first ones, those whose path or name a pattern matches or does not match,
and those with an extension.
-/

namespace Stencil.PathFilter

/-- Lowers ASCII letters and compares. -/
def sameIgnoringCase (s t : Text) : Bool :=
  s.map Char.toLower = t.map Char.toLower

/-- Whether a path has an extension, ASCII letters compared without case. -/
def hasExtension (p : Path) (extension : Text) : Bool :=
  p.extension?.any (sameIgnoringCase · extension)

/-- The parts of a pattern that is the argument of a filter. -/
def pattern (filter : Text) (arg : Option Text) : Except ProviderError (List Glob.Part) := do
  let glob ← Argument.text filter arg
  (Glob.parse glob).mapError (.pattern glob)

/-- Whether a pattern matches a candidate: a text, or a path or its file name. -/
def isMatch (parts : List Glob.Part) : Candidate → Bool
  | .path p => Glob.isMatch false parts p.text || p.fileName?.any (Glob.isMatch false parts)
  | .text s => Glob.isMatch false parts s
  | .record _ => false

/-- Keeps the first candidates. -/
def limit : Filter := fun cs arg => do
  let n ← Argument.count "limit".toList arg
  return cs.take n

/-- Keeps the candidates that a pattern matches. -/
def keepMatching : Filter := fun cs arg => do
  let parts ← pattern "match".toList arg
  return cs.filter (isMatch parts)

/-- Drops the candidates that a pattern matches. -/
def dropMatching : Filter := fun cs arg => do
  let parts ← pattern "exclude".toList arg
  return cs.filter (!isMatch parts ·)

/-- Keeps the paths with an extension, which may be given with its dot. -/
def withExtension : Filter := fun cs arg => do
  let extension ← Argument.text "ext".toList arg
  let extension := extension.dropWhile (· = '.')
  return cs.filter fun
    | .path p => hasExtension p extension
    | _ => false

/-- The path filters by name. -/
def table : List (String × Filter) :=
  [("limit", limit), ("match", keepMatching), ("exclude", dropMatching), ("ext", withExtension)]

end Stencil.PathFilter
