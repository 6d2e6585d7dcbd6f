import Stencil.Provider.Candidate
import Stencil.World

/-!
# Providers

A provider stands behind a type name. It discovers candidates for a key, has filters to narrow and
change them, validates the candidate that is chosen and renders it. A provider may be stateful: its
discovery is told how often it has been called before.
-/

namespace Stencil

/-- What providers are told about a compile. -/
structure Context where
  /-- The directory that paths are relative to. -/
  root : Path
  world : World

/-- What a call of discovery comes to. -/
inductive Discovery
  | found (candidates : List Candidate)
  | failed (error : ProviderError)
  /-- The call breaks down. -/
  | panicked
  /-- The call never comes to an end. -/
  | pending

/-- What a provider says about a candidate. -/
inductive Validation
  | accepted
  /-- The candidate is no good, for the reason given. -/
  | message (reason : Text)
  /-- The candidate is no good, for no reason given. -/
  | rejected
  deriving DecidableEq, Repr

/-- The supplier of values for a type name. -/
structure Provider where
  description : Text
  /-- The names of the filters, in the order in which they are listed. -/
  filterNames : List Text
  filter? : Text → Option Filter
  /-- Discovery for a key, given how often the provider has been called before. -/
  discover : Context → (earlier : Nat) → (key : Text) → Discovery
  validate : Context → Candidate → (key : Text) → Validation
  render : Candidate → Except ProviderError Text
  /-- Whether a rendered value is the path of a file whose text is put in. -/
  embeds : Bool

namespace Provider

/-- The filter with a name. -/
def ofTable (table : List (String × Filter)) (name : Text) : Option Filter :=
  table.lookup (String.ofList name)

/-- The names of filters. -/
def namesOf (table : List (String × Filter)) : List Text :=
  table.map (·.1.toList)

/-- A provider with the filters of a table that accepts every candidate and embeds no files. -/
def ofDiscovery (description : String) (table : List (String × Filter))
    (discover : Context → Nat → Text → Discovery)
    (render : Candidate → Except ProviderError Text) : Provider where
  description := description.toList
  filterNames := namesOf table
  filter? := ofTable table
  discover
  validate _ _ _ := .accepted
  render
  embeds := false

end Provider

/-- Candidates or an error as what a call of discovery comes to. -/
def Discovery.ofExcept : Except ProviderError (List Candidate) → Discovery
  | .ok cs => found cs
  | .error e => failed e

end Stencil
