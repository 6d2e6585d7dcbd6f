import Stencil.Text.Basic

/-!
# Reading YAML

A cursor is a place in a YAML text: what follows it, and its position. Beside the line feed and the
carriage return, three more characters break lines: U+0085, U+2028 and U+2029.
-/

namespace Stencil.Yaml

/-- Whether a character may stand in a YAML text. -/
def isAllowed (c : Char) : Bool :=
  let n := c.toNat
  n = 0x09 || n = 0x0a || n = 0x0d || (0x20 ≤ n && n ≤ 0x7e) || n = 0x85
    || (0xa0 ≤ n && n ≤ 0xfffd && n ≠ 0xfeff) || 0x10000 ≤ n

/-- Blanks are the space and the tab. -/
def isSpace (c : Char) : Bool :=
  c = ' ' || c = '\t'

/-- Whether a character breaks a line. -/
def isBreak (c : Char) : Bool :=
  c = '\n' || c = '\r' || c = '\x85' || c = '\u2028' || c = '\u2029'

/-- The characters of the names of anchors, handles and directives. -/
def isNameChar (c : Char) : Bool :=
  c.isAlphanum || c = '_' || c = '-'

/-- Whether a text is at its end or begins with a blank or a line break. -/
def isClear (s : Text) : Bool :=
  match s with
  | [] => true
  | c :: _ => isSpace c || isBreak c

/-- Whether a text is at its end or begins with a line break. -/
def isLineEnd (s : Text) : Bool :=
  match s with
  | [] => true
  | c :: _ => isBreak c

/-- Whether a text begins with the mark of a document's start or end. -/
def startsWithMark (s : Text) : Bool :=
  match s with
  | '-' :: '-' :: '-' :: s => isClear s
  | '.' :: '.' :: '.' :: s => isClear s
  | _ => false

/-- A place in a YAML text. -/
structure Cursor where
  rest : Text
  index : Nat := 0
  line : Nat := 0
  column : Nat := 0

namespace Cursor

variable (c : Cursor)

/-- The next character. -/
def peek? : Option Char :=
  c.rest.head?

/-- Whether the next character satisfies `p`. -/
def sees (p : Char → Bool) : Bool :=
  c.peek?.any p

/-- The cursor behind the next characters, none of which breaks the line. -/
def skip (n : Nat) : Cursor :=
  { c with rest := c.rest.drop n, index := c.index + n, column := c.column + n }

/-- The characters up to the first that does not satisfy `p`, none of which breaks the line, and the
cursor behind them. -/
def takeWhile (p : Char → Bool) : Text × Cursor :=
  let s := c.rest.takeWhile p
  (s, { c with
    rest := c.rest.dropWhile p, index := c.index + s.length, column := c.column + s.length })

/-- The cursor behind the characters that satisfy `p`, none of which breaks the line. -/
def skipWhile (p : Char → Bool) : Cursor :=
  (c.takeWhile p).2

/-- The text that the line break at the cursor stands for, if there is one, and the cursor behind
it. -/
def lineBreak : Text × Cursor :=
  match c.rest with
  | '\r' :: '\n' :: s => (['\n'], ⟨s, c.index + 2, c.line + 1, 0⟩)
  | b :: s =>
    if isBreak b then
      (if b = '\u2028' ∨ b = '\u2029' then [b] else ['\n'], ⟨s, c.index + 1, c.line + 1, 0⟩)
    else ([], c)
  | [] => ([], c)

/-- Whether the cursor is at the mark of a document's start or end. -/
def atMark : Bool :=
  c.column = 0 && startsWithMark c.rest

/-- The cursor behind blanks, a comment and a line break; `none` if anything else is on the line. -/
def finishLine? : Option Cursor :=
  let c := c.skipWhile isSpace
  let c := if c.peek? = some '#' then c.skipWhile (!isBreak ·) else c
  if isLineEnd c.rest then some c.lineBreak.2 else none

end Cursor

end Stencil.Yaml
