import Stencil.Template.Body

/-!
# Placeholders

A placeholder is a token together with the reading of its body. Two placeholders with the same token
text are the same placeholder.
-/

namespace Stencil

/-- A token and what its body says. -/
structure Placeholder where
  /-- The whole token with its braces. -/
  raw : Text
  body : Body
  deriving DecidableEq, Repr

namespace Placeholder

/-- The text between the braces of a token. A text that has not both pairs of braces is taken as it
is. -/
def inner (raw : Text) : Text :=
  match Text.dropMark? ['{', '{'] raw with
  | some s =>
    match Text.dropMark? ['}', '}'] s.reverse with
    | some r => r.reverse
    | none => raw
  | none => raw

/-- Reads a token, or a bare body. -/
def parse (raw : Text) : Placeholder :=
  ⟨raw, Body.parse (inner raw)⟩

/-- The type name: `file` for file references, `none` for malformed placeholders. -/
def typeName? (p : Placeholder) : Option Text :=
  match p.body with
  | .file _ => some "file".toList
  | .lookup v => some v.typeName
  | .malformed _ => none

/-- Whether the body follows neither form. -/
def isMalformed (p : Placeholder) : Bool :=
  match p.body with
  | .malformed _ => true
  | _ => false

end Placeholder

end Stencil
