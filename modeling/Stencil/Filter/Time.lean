import Stencil.Calendar.Format
import Stencil.Data.Json
import Stencil.Filter.Argument
import Stencil.Provider.Candidate

/-!
# The time filter

A record of a moment holds it under `utc`, in the form of RFC 3339. The filter turns such records
into text, after which the text filters apply.
-/

namespace Stencil.TimeFilter

/-- The moment that a record holds. -/
def moment (v : Value) : Except ProviderError Moment :=
  match (v.field? "utc".toList).bind Value.text? |>.bind Moment.parse? with
  | some m => .ok m
  | none => .error (.unrenderable (Json.compact v))

/-- Writes a moment by a format. -/
def write (m : Moment) (pattern : Text) : Except ProviderError Text :=
  match Calendar.format? m pattern with
  | some s => .ok s
  | none =>
    .error (.invalidArgument "format".toList ("invalid time format '".toList ++ pattern ++ ['\'']))

/-- Writes the records of moments by the format that is the argument. -/
def format : Filter := fun cs arg => do
  let pattern ← Argument.text "format".toList arg
  cs.mapM fun
    | .record v => do
      let m ← moment v
      let s ← write m pattern
      return .text s
    | c => .ok c

end Stencil.TimeFilter
