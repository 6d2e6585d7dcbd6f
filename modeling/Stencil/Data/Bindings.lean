import Stencil.Text.Basic

/-!
# Bindings

Keys with values, each key once, in the order in which the keys were first set. Setting a key again
changes its value and not its place.
-/

namespace Stencil

/-- Keys with values in order. -/
abbrev Bindings := List (Text × Text)

namespace Bindings

/-- Sets a key. -/
def set (key value : Text) : Bindings → Bindings
  | [] => [(key, value)]
  | (other, v) :: rest =>
    if other = key then (key, value) :: rest else (other, v) :: set key value rest

/-- Sets several keys one after the other. -/
def setAll (b : Bindings) (pairs : List (Text × Text)) : Bindings :=
  pairs.foldl (fun b (key, value) => b.set key value) b

/-- The bindings that pairs of keys and values make up. -/
def ofPairs (pairs : List (Text × Text)) : Bindings :=
  setAll [] pairs

end Bindings

end Stencil
