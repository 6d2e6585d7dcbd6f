import Stencil.Data.Value

/-!
# JSON

Values are written as JSON in two forms: without any blanks, or with one item a line, each level
indented by two more blanks. Only the quotation mark, the backslash and control characters are
escaped.
-/

namespace Stencil.Json

/-- The hexadecimal digits of a control character. -/
def hexPair (n : Nat) : Text :=
  [Nat.digitChar (n / 16), Nat.digitChar (n % 16)]

/-- A character inside of quotation marks. -/
def escape (c : Char) : Text :=
  if c = '"' then ['\\', '"']
  else if c = '\\' then ['\\', '\\']
  else if c = '\n' then ['\\', 'n']
  else if c = '\r' then ['\\', 'r']
  else if c = '\t' then ['\\', 't']
  else if c = '\x08' then ['\\', 'b']
  else if c = '\x0c' then ['\\', 'f']
  else if c.toNat < 0x20 then "\\u00".toList ++ hexPair c.toNat
  else [c]

/-- A text in quotation marks. -/
def quote (s : Text) : Text :=
  '"' :: (s.flatMap escape ++ ['"'])

/-- A whole number in decimal. -/
def number (n : Int) : Text :=
  if n < 0 then '-' :: Text.ofNat n.natAbs else Text.ofNat n.natAbs

mutual

/-- A value without blanks. -/
def compact : Value → Text
  | .null => "null".toList
  | .bool b => (if b then "true" else "false").toList
  | .int n => number n
  | .text s => quote s
  | .list items => '[' :: (Text.join [','] (compactItems items) ++ [']'])
  | .fields items => '\x7b' :: (Text.join [','] (compactFields items) ++ ['\x7d'])

/-- The items of a list, each without blanks. -/
def compactItems : List Value → List Text
  | [] => []
  | v :: rest => compact v :: compactItems rest

/-- The fields of a record, each without blanks. -/
def compactFields : List (Text × Value) → List Text
  | [] => []
  | (key, v) :: rest => (quote key ++ ':' :: compact v) :: compactFields rest

end

/-- A line break and the indentation of a level. -/
def newLine (level : Nat) : Text :=
  '\n' :: List.replicate (2 * level) ' '

/-- Items between brackets, one a line. -/
def block (left right : Char) (level : Nat) (items : List Text) : Text :=
  if items.isEmpty then [left, right]
  else
    left :: (Text.join [','] (items.map (newLine (level + 1) ++ ·)) ++ newLine level ++ [right])

mutual

/-- A value with one item a line, on a level of indentation. -/
def prettyAt (level : Nat) : Value → Text
  | .list items => block '[' ']' level (prettyItems (level + 1) items)
  | .fields items => block '\x7b' '\x7d' level (prettyFields (level + 1) items)
  | v => compact v

/-- The items of a list on a level of indentation. -/
def prettyItems (level : Nat) : List Value → List Text
  | [] => []
  | v :: rest => prettyAt level v :: prettyItems level rest

/-- The fields of a record on a level of indentation. -/
def prettyFields (level : Nat) : List (Text × Value) → List Text
  | [] => []
  | (key, v) :: rest => (quote key ++ ':' :: ' ' :: prettyAt level v) :: prettyFields level rest

end

/-- A value with one item a line. -/
def pretty (v : Value) : Text :=
  prettyAt 0 v

end Stencil.Json
