import Stencil.Provider.FileTree

/-!
# Registries

A registry gives type names providers. Registering a name again replaces its provider.
-/

namespace Stencil

/-- Type names with their providers; each name occurs once. -/
structure Registry where
  entries : List (Text × Provider)

namespace Registry

/-- The registry without any type. -/
def empty : Registry :=
  ⟨[]⟩

/-- Gives a type name a provider. -/
def register (r : Registry) (name : Text) (p : Provider) : Registry :=
  ⟨r.entries.filter (·.1 ≠ name) ++ [(name, p)]⟩

/-- The registry with the provider of files alone. -/
def base : Registry :=
  empty.register "file".toList FileTree.provider

/-- The provider of a type name. -/
def get? (r : Registry) (name : Text) : Option Provider :=
  r.entries.lookup name

/-- Whether a type name has a provider. -/
def contains (r : Registry) (name : Text) : Bool :=
  (r.get? name).isSome

/-- The types with their providers in the order of the names. -/
def sorted (r : Registry) : List (Text × Provider) :=
  r.entries.mergeSort fun a b => Text.le a.1 b.1

/-- The number of types. -/
def size (r : Registry) : Nat :=
  r.entries.length

end Registry

end Stencil
