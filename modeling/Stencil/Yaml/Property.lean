import Stencil.Yaml.Scalar
import Stencil.Yaml.Token

/-!
# Anchors, tags and directives

The small tokens of YAML: names of anchors, tags with their handles, and the directives `%YAML` and
`%TAG`. In a tag, a percent sign and two hexadecimal digits stand for a byte. Every reader returns
`none` where the text is not well-formed.
-/

namespace Stencil.Yaml

/-! ## Anchors -/

/-- Whether a text may follow the name of an anchor. -/
def endsAnchor (s : Text) : Bool :=
  isClear s || s.head?.any fun c =>
    c = '?' || c = ':' || c = ',' || c = ']' || c = '\x7d' || c = '%' || c = '@' || c = '\x60'

/-- Reads the name of an anchor behind its mark. -/
def anchorName? (c : Cursor) : Option (Text × Cursor) :=
  let (name, c) := (c.skip 1).takeWhile isNameChar
  if name.isEmpty || !endsAnchor c.rest then none else some (name, c)

/-! ## Tags -/

/-- The characters of tags. A tag in angle brackets has some more. -/
def isTagChar (bracketed : Bool) (c : Char) : Bool :=
  isNameChar c || c ∈ ";/?:@&=+$.%!~*'()".toList || (bracketed && (c = ',' || c = '[' || c = ']'))

/-- The byte that a percent sign and two hexadecimal digits stand for. -/
def percentByte? : Text → Option UInt8
  | '%' :: a :: b :: _ =>
    match hexDigit? a, hexDigit? b with
    | some x, some y => some (x * 16 + y).toUInt8
    | _, _ => none
  | _ => none

/-- The number of bytes of the UTF-8 sequence that a byte begins, or 0. -/
def sequenceLength (b : UInt8) : Nat :=
  let n := b.toNat
  if n < 0x80 then 1
  else if n < 0xc0 then 0
  else if n < 0xe0 then 2
  else if n < 0xf0 then 3
  else if n < 0xf8 then 4
  else 0

/-- Reads the bytes behind the first one of an escaped UTF-8 sequence. -/
def percentTail : Nat → List UInt8 → Cursor → Option (List UInt8 × Cursor)
  | 0, out, c => some (out, c)
  | missing + 1, out, c =>
    match percentByte? c.rest with
    | some b =>
      if 0x80 ≤ b.toNat ∧ b.toNat < 0xc0 then percentTail missing (b :: out) (c.skip 3) else none
    | none => none

/-- Reads the characters of a tag. `out` holds the bytes so far, the last one first. -/
def tagBytes (bracketed : Bool) : Nat → List UInt8 → Cursor → Option (List UInt8 × Cursor)
  | 0, out, c => some (out.reverse, c)
  | bound + 1, out, c =>
    match c.rest with
    | [] => some (out.reverse, c)
    | x :: _ =>
      if !isTagChar bracketed x then some (out.reverse, c)
      else if x = '%' then
        match percentByte? c.rest with
        | none => none
        | some b =>
          match sequenceLength b with
          | 0 => none
          | missing + 1 =>
            match percentTail missing (b :: out) (c.skip 3) with
            | none => none
            | some (out, c) => tagBytes bracketed bound out c
      else tagBytes bracketed bound ((String.utf8EncodeChar x).reverse ++ out) (c.skip 1)

/-- Reads a handle: an exclamation mark, or a name between two. Returns whether it is closed. -/
def tagHandle? (c : Cursor) : Option (Text × Bool × Cursor) :=
  if c.peek? ≠ some '!' then none
  else
    let (name, c) := (c.skip 1).takeWhile isNameChar
    if c.peek? = some '!' then some ('!' :: name ++ ['!'], true, c.skip 1)
    else some ('!' :: name, false, c)

/-- Whether a text may follow a tag. -/
def endsTag (inFlow : Bool) (s : Text) : Bool :=
  isClear s || (inFlow && s.head? = some ',')

/-- Reads a tag. -/
def tag? (inFlow : Bool) (c : Cursor) : Option (Token × Cursor) := do
  let bound := c.rest.length
  let (token, c) ←
    if (c.rest.drop 1).head? = some '<' then do
      let (bytes, c) ← tagBytes true bound [] (c.skip 2)
      if bytes.isEmpty || c.peek? ≠ some '>' then none
      else some (.tag [] bytes, c.skip 1)
    else do
      let (handle, closed, c) ← tagHandle? c
      if closed then do
        let (bytes, c) ← tagBytes false bound [] c
        if bytes.isEmpty then none else some (.tag handle bytes, c)
      else do
        let begun := (handle.drop 1).flatMap String.utf8EncodeChar
        let (bytes, c) ← tagBytes false bound begun.reverse c
        if bytes.isEmpty then some (.tag [] (String.utf8EncodeChar '!'), c)
        else some (.tag ['!'] bytes, c)
  if endsTag inFlow c.rest then return (token, c) else none

/-! ## Directives -/

/-- Reads a number of at most nine digits. -/
def versionNumber? (c : Cursor) : Option (Nat × Cursor) :=
  let (ds, c) := c.takeWhile Char.isDigit
  if ds.isEmpty || 9 < ds.length then none else some (Text.digitsValue ds, c)

/-- Reads what follows the name of a `%YAML` directive. -/
def versionDirective? (c : Cursor) : Option (Token × Cursor) := do
  let (major, c) ← versionNumber? (c.skipWhile isSpace)
  if c.peek? ≠ some '.' then none
  else
    let (minor, c) ← versionNumber? (c.skip 1)
    return (.version major minor, c)

/-- Reads what follows the name of a `%TAG` directive. -/
def tagDirective? (c : Cursor) : Option (Token × Cursor) := do
  let (handle, closed, c) ← tagHandle? (c.skipWhile isSpace)
  if (!closed && handle ≠ ['!']) || !c.sees isSpace then none
  else
    let (bytes, c) ← tagBytes true c.rest.length [] (c.skipWhile isSpace)
    if bytes.isEmpty || !isClear c.rest then none else return (.tagHandle handle bytes, c)

/-- Reads a directive. -/
def directive? (c : Cursor) : Option (Token × Cursor) := do
  let (name, c) := (c.skip 1).takeWhile isNameChar
  if name.isEmpty || !isClear c.rest then none
  else
    let (token, c) ←
      match String.ofList name with
      | "YAML" => versionDirective? c
      | "TAG" => tagDirective? c
      | _ => none
    let c ← c.finishLine?
    return (token, c)

end Stencil.Yaml
