import Stencil.Text.Basic

/-!
# YAML tokens

What a YAML text is cut into before it is parsed. Indentation shows as tokens that begin and end
block collections.
-/

namespace Stencil.Yaml

/-- How a scalar is written. -/
inductive Style
  | plain
  | singleQuoted
  | doubleQuoted
  | literal
  | folded
  deriving DecidableEq, Repr

/-- A token. -/
inductive Token
  | streamEnd
  /-- `%YAML` with its two numbers. -/
  | version (major minor : Nat)
  /-- `%TAG` with a handle and what it stands for. -/
  | tagHandle (handle : Text) (meaning : List UInt8)
  | documentStart
  | documentEnd
  | blockSequenceStart
  | blockMappingStart
  | blockEnd
  | flowSequenceStart
  | flowSequenceEnd
  | flowMappingStart
  | flowMappingEnd
  | blockEntry
  | flowEntry
  | key
  | value
  | reference (anchor : Text)
  | anchor (name : Text)
  /-- A tag: a handle, empty if there is none, and what follows it. -/
  | tag (handle : Text) (suffix : List UInt8)
  | scalar (text : Text) (style : Style)
  deriving DecidableEq, Repr

end Stencil.Yaml
