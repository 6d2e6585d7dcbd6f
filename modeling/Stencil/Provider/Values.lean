import Stencil.Data.Json
import Stencil.Filter.Text
import Stencil.Provider.Basic

/-!
# Values

The provider of fixed values by key. A key without a value has no candidates.
-/

namespace Stencil.Values

/-- A text as it is, a path as it was written, and a record as JSON. -/
def render : Candidate → Except ProviderError Text
  | .text s => .ok s
  | .path p => .ok p.text
  | .record v => .ok (Json.compact v)

/-- The value of a key, if it has one. -/
def discover (values : List (Text × Text)) (key : Text) : List Candidate :=
  ((values.lookup key).map Candidate.text).toList

/-- The provider of the given values. -/
def provider (values : List (Text × Text)) : Provider :=
  .ofDiscovery "Static values from the `variables` section of the configuration" TextFilter.table
    (fun _ _ key => .found (discover values key)) render

end Stencil.Values
