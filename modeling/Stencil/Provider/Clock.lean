import Stencil.Filter.Text
import Stencil.Filter.Time
import Stencil.Provider.Basic

/-!
# The clock

The provider of the current time, whatever the key. Its candidate is a record, which a filter may
write by a format of its own; otherwise it is rendered by the usual one.
-/

namespace Stencil.Clock

/-- The usual format. -/
def usualFormat : Text :=
  "%Y-%m-%d %H:%M:%S".toList

/-- The record of a moment. -/
def record (m : Moment) : Value :=
  .record [("utc".toList, .text m.toText)]

/-- The filters of the clock. -/
def filters : List (String × Filter) :=
  ("format", TimeFilter.format) :: TextFilter.table

/-- The record of a moment by the usual format, and a text as it is. -/
def render : Candidate → Except ProviderError Text
  | .record v => do
    let m ← TimeFilter.moment v
    TimeFilter.write m usualFormat
  | .text s => .ok s
  | .path p => .error (.unrenderable p.text)

/-- The provider of the current time. -/
def provider : Provider :=
  .ofDiscovery "Current UTC time, formatted with `format(pattern)`" filters
    (fun context _ _ => .found [.record (record context.world.now)]) render

end Stencil.Clock
