import Stencil.Calendar.Moment
import Stencil.Files.System

/-!
# The world

What the outside offers while templates are compiled: files, environment variables and the time. It
stays the same during a compile.
-/

namespace Stencil

/-- Names and values in order; a name occurs once. -/
structure Environment where
  entries : List (Text × Text)

namespace Environment

/-- The value of a variable. Each entry stands as `name=value`, so a name that is asked for may run
into the value of an entry; there is no variable with an empty name. -/
def get? (env : Environment) (name : Text) : Option Text :=
  if name.isEmpty || '\x00' ∈ name then none
  else
    env.entries.findSome? fun (key, value) =>
      Text.dropMark? (name ++ ['=']) (key ++ '=' :: value)

/-- Sets or unsets a variable. -/
def set (env : Environment) (name : Text) (value : Option Text) : Environment :=
  let others := env.entries.filter (·.1 ≠ name)
  ⟨others ++ (value.map (name, ·)).toList⟩

end Environment

/-- Files, environment variables and the time. -/
structure World where
  files : FileSystem
  env : Environment
  now : Moment

end Stencil
