import Stencil.Resolve.Error

/-!
# Resolutions

What has become of a placeholder: where its value comes from and what it is, or why there is none,
with what was met on the way.
-/

namespace Stencil

/-- Where the text that stands for a placeholder comes from. -/
inductive Source
  | discovered
  | byDefault
  | environment
  | failed
  deriving DecidableEq, Repr

/-- The text that a user is shown. -/
def Source.text : Source → Text
  | discovered => "discovered".toList
  | byDefault => "default".toList
  | environment => "environment".toList
  | failed => "failed".toList

/-- A value or an error. -/
inductive Outcome
  /-- The value of the first candidate that the filters left. -/
  | discovered (value : Text) (warnings : List Text)
  /-- The default literal. -/
  | byDefault (literal : Text)
  /-- The environment variable with the name of the key. -/
  | environment (value : Text)
  | failed (error : ResolveError)
  deriving DecidableEq, Repr

namespace Outcome

/-- Where the text comes from. -/
def source : Outcome → Source
  | discovered .. => .discovered
  | byDefault _ => .byDefault
  | environment _ => .environment
  | failed _ => .failed

/-- The text that stands for the placeholder: the value, or the comment on the error. -/
def value : Outcome → Text
  | discovered value _ => value
  | byDefault literal => literal
  | environment value => value
  | failed e => e.marker

/-- The error, if there is one. -/
def error? : Outcome → Option ResolveError
  | failed e => some e
  | _ => none

/-- The warnings about the value. -/
def warnings : Outcome → List Text
  | discovered _ warnings => warnings
  | _ => []

end Outcome

/-- What has become of a placeholder. -/
structure Resolution where
  raw : Text
  typeName : Option Text
  outcome : Outcome
  /-- The message of the error in which discovery ended. -/
  discoveryError : Option Text := none
  /-- The number of candidates that were discovered. -/
  candidates : Nat := 0
  deriving DecidableEq, Repr

namespace Resolution

/-- Whether there is no value. -/
def isFailed (r : Resolution) : Bool :=
  r.outcome.source = .failed

end Resolution

end Stencil
