import Stencil.Data.Value
import Stencil.Files.Path
import Stencil.Provider.Error

/-!
# Candidates and filters

Discovery yields candidates: texts, paths of files, or records that only their provider understands.
A filter takes the whole list of candidates and the text between its parentheses, and narrows or
changes the list, or fails.
-/

namespace Stencil

/-- Something that may be put in the place of a placeholder. -/
inductive Candidate
  | text (s : Text)
  | path (p : Path)
  | record (v : Value)

/-- Narrows or changes a list of candidates, given the argument of the call. -/
abbrev Filter := List Candidate → Option Text → Except ProviderError (List Candidate)

/-- Changes a candidate that is a text. -/
def Candidate.mapText (f : Text → Text) : Candidate → Candidate
  | text s => text (f s)
  | c => c

end Stencil
