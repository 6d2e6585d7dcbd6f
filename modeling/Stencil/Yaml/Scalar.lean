import Stencil.Yaml.Cursor

/-!
# YAML scalars

The texts that plain, quoted and block scalars stand for. A scalar that runs over several lines is
folded: a single line break between two lines stands for a space, and of several the first is
dropped. Every reader returns `none` where the scalar is not well-formed, and the number that it
takes bounds its steps.
-/

namespace Stencil.Yaml

/-! ## Gaps -/

/-- Blanks and line breaks between the characters of a scalar, the last ones first. -/
structure Gap where
  spaces : Text := []
  /-- The first line break. -/
  first : Text := []
  /-- The other line breaks. -/
  more : Text := []
  /-- Whether there is a line break, which may be an escaped one. -/
  broken : Bool := false

namespace Gap

/-- The text that a gap stands for, the last character first. -/
def reversed (g : Gap) : Text :=
  if !g.broken then g.spaces
  else if g.first = ['\n'] then if g.more.isEmpty then [' '] else g.more
  else g.more ++ g.first

/-- Reads blanks and line breaks. A tab on a new line must not stand before the given column. -/
def read (column : Nat) : Nat → Gap → Cursor → Option (Gap × Cursor)
  | 0, g, c => some (g, c)
  | bound + 1, g, c =>
    match c.peek? with
    | none => some (g, c)
    | some x =>
      if isSpace x then
        if g.broken then
          if x = '\t' ∧ c.column < column then none else read column bound g (c.skip 1)
        else read column bound { g with spaces := x :: g.spaces } (c.skip 1)
      else if isBreak x then
        let (s, c) := c.lineBreak
        if g.broken then read column bound { g with more := s ++ g.more } c
        else read column bound { g with first := s, broken := true } c
      else some (g, c)

end Gap

/-! ## Plain scalars -/

/-- The characters that end a plain scalar in a flow collection. -/
def isFlowIndicator (c : Char) : Bool :=
  c = ',' || c = '[' || c = ']' || c = '\x7b' || c = '\x7d'

/-- Reads a run of characters of a plain scalar up to a blank, a line break, or its end. `out` holds
the characters, the last one first. -/
def plainRun (inFlow : Bool) : Nat → Text → Cursor → Option (Text × Cursor)
  | 0, out, c => some (out, c)
  | bound + 1, out, c =>
    match c.rest with
    | [] => some (out, c)
    | x :: s =>
      if isSpace x || isBreak x then some (out, c)
      else if inFlow && x = ':' && s.head?.any (fun y => isFlowIndicator y || y = '?') then none
      else if (x = ':' && isClear s) || (inFlow && isFlowIndicator x) then some (out, c)
      else plainRun inFlow bound (x :: out) (c.skip 1)

/-- Reads a plain scalar whose lines begin at the given column or behind it. Returns whether it was
followed by a line break. -/
def plainFrom (inFlow : Bool) (column : Nat) :
    Nat → Text → Gap → Cursor → Option (Text × Bool × Cursor)
  | 0, out, g, c => some (out.reverse, g.broken, c)
  | bound + 1, out, g, c =>
    if c.atMark || c.peek? = some '#' then some (out.reverse, g.broken, c)
    else do
      let (run, c) ← plainRun inFlow bound [] c
      let (out, g) := if run.isEmpty then (out, g) else (run ++ g.reversed ++ out, {})
      if !c.sees (fun x => isSpace x || isBreak x) then some (out.reverse, g.broken, c)
      else
        let (g, c) ← g.read column bound c
        if !inFlow && c.column < column then some (out.reverse, g.broken, c)
        else plainFrom inFlow column bound out g c

/-- Reads a plain scalar. -/
def plainScalar (inFlow : Bool) (column : Nat) (c : Cursor) : Option (Text × Bool × Cursor) :=
  plainFrom inFlow column (c.rest.length + 1) [] {} c

/-! ## Quoted scalars -/

/-- The value of a hexadecimal digit. -/
def hexDigit? (c : Char) : Option Nat :=
  if '0' ≤ c ∧ c ≤ '9' then some (c.toNat - '0'.toNat)
  else if 'a' ≤ c ∧ c ≤ 'f' then some (c.toNat - 'a'.toNat + 10)
  else if 'A' ≤ c ∧ c ≤ 'F' then some (c.toNat - 'A'.toNat + 10)
  else none

/-- The number of exactly `width` hexadecimal digits at the start of a text. -/
def hexNumber? : (width value : Nat) → Text → Option Nat
  | 0, value, _ => some value
  | _ + 1, _, [] => none
  | width + 1, value, c :: s => (hexDigit? c).bind fun d => hexNumber? width (value * 16 + d) s

/-- The characters that single letters stand for behind a backslash. -/
def escapes : List (Char × Char) :=
  [('0', '\x00'), ('a', '\x07'), ('b', '\x08'), ('t', '\t'), ('\t', '\t'), ('n', '\n'),
    ('v', '\x0b'), ('f', '\x0c'), ('r', '\r'), ('e', '\x1b'), (' ', ' '), ('"', '"'), ('/', '/'),
    ('\\', '\\'), ('N', '\x85'), ('_', '\xa0'), ('L', '\u2028'), ('P', '\u2029')]

/-- Reads an escape behind its backslash: the character that it stands for and its length. -/
def escape? : Text → Option (Char × Nat)
  | [] => none
  | x :: s =>
    let width := if x = 'x' then 2 else if x = 'u' then 4 else if x = 'U' then 8 else 0
    if width = 0 then (escapes.lookup x).map (·, 1)
    else
      (hexNumber? width 0 s).bind fun n =>
        if n.isValidChar then some (Char.ofNat n, width + 1) else none

/-- Reads a run of characters of a quoted scalar up to a blank, a line break, an escaped line break,
or the quote that ends it. Returns whether there was an escaped line break. -/
def quotedRun (quote : Char) : Nat → Text → Cursor → Option (Text × Bool × Cursor)
  | 0, out, c => some (out, false, c)
  | bound + 1, out, c =>
    match c.rest with
    | [] => some (out, false, c)
    | x :: s =>
      if isSpace x || isBreak x then some (out, false, c)
      else if quote = '\'' && x = '\'' && s.head? = some '\'' then
        quotedRun quote bound ('\'' :: out) (c.skip 2)
      else if x = quote then some (out, false, c)
      else if quote = '"' && x = '\\' then
        if s.head?.any isBreak then some (out, true, (c.skip 1).lineBreak.2)
        else
          match escape? s with
          | some (y, width) => quotedRun quote bound (y :: out) (c.skip (width + 1))
          | none => none
      else quotedRun quote bound (x :: out) (c.skip 1)

/-- Reads a quoted scalar behind its first quote. -/
def quotedFrom (quote : Char) : Nat → Text → Cursor → Option (Text × Cursor)
  | 0, _, _ => none
  | bound + 1, out, c =>
    if c.atMark || c.rest.isEmpty then none
    else do
      let (out, escaped, c) ← quotedRun quote bound out c
      if c.peek? = some quote then some (out.reverse, c.skip 1)
      else
        let (g, c) ← Gap.read 0 bound { broken := escaped } c
        quotedFrom quote bound (g.reversed ++ out) c

/-- Reads a quoted scalar. -/
def quotedScalar (quote : Char) (c : Cursor) : Option (Text × Cursor) :=
  quotedFrom quote (c.rest.length + 1) [] (c.skip 1)

/-! ## Block scalars -/

/-- What becomes of the line breaks at the end of a block scalar. -/
inductive Chomping
  | strip
  | clip
  | keep
  deriving DecidableEq, Repr

/-- The chomping that a sign stands for. -/
def chomping? (c : Char) : Option Chomping :=
  if c = '+' then some .keep else if c = '-' then some .strip else none

/-- Reads a chomping sign and an indentation digit, in either order. The digit is 0 if there is
none. -/
def blockHeader (c : Cursor) : Option (Chomping × Nat × Cursor) :=
  let digit (c : Cursor) : Option (Nat × Cursor) :=
    match c.peek? with
    | some x =>
      if x = '0' then none
      else if x.isDigit then some (x.toNat - '0'.toNat, c.skip 1)
      else some (0, c)
    | none => some (0, c)
  match c.peek?.bind chomping? with
  | some chomping => (digit (c.skip 1)).map fun (n, c) => (chomping, n, c)
  | none =>
    (digit c).map fun (n, c) =>
      match c.peek?.bind chomping? with
      | some chomping => if n = 0 then (.clip, n, c) else (chomping, n, c.skip 1)
      | none => (.clip, n, c)

/-- Reads the indentation and the empty lines before a line of a block scalar. `indent` is the
indentation of the scalar, or 0 as long as it is not known, and `widest` the widest indentation so
far. Returns the line breaks, the last one first, and the widest indentation. -/
def blockBreaks (indent : Nat) : Nat → Nat → Text → Cursor → Option (Text × Nat × Cursor)
  | 0, widest, breaks, c => some (breaks, widest, c)
  | bound + 1, widest, breaks, c =>
    let spaces := (c.rest.takeWhile (· = ' ')).length
    let c := c.skip (if indent = 0 then spaces else min spaces (indent - c.column))
    let widest := max widest c.column
    if (indent = 0 || c.column < indent) && c.peek? = some '\t' then none
    else if c.sees isBreak then
      let (s, c) := c.lineBreak
      blockBreaks indent bound widest (s ++ breaks) c
    else some (breaks, widest, c)

/-- Reads the lines of a block scalar. `out` holds what has been read, the last character first,
`lineBreak` the break behind the last line, `breaks` those of the empty lines after it, and `blank`
whether the last line began with a blank. -/
def blockLines (isLiteral : Bool) (indent : Nat) :
    Nat → (out lineBreak breaks : Text) → Bool → Cursor → Option (Text × Text × Text × Cursor)
  | 0, out, lineBreak, breaks, _, c => some (out, lineBreak, breaks, c)
  | bound + 1, out, lineBreak, breaks, blank, c =>
    if c.column ≠ indent || c.rest.isEmpty then some (out, lineBreak, breaks, c)
    else
      let beginsBlank := c.sees isSpace
      let fold := !isLiteral && lineBreak = ['\n'] && !blank && !beginsBlank
      -- Lines that begin with a blank keep the breaks around them.
      let glue := if fold then if breaks.isEmpty then [' '] else [] else lineBreak
      let (line, c) := c.takeWhile (!isBreak ·)
      let (lineBreak, c) := c.lineBreak
      match blockBreaks indent bound 0 [] c with
      | none => none
      | some (next, _, c) =>
        blockLines isLiteral indent bound (line.reverse ++ breaks ++ glue ++ out) lineBreak next
          beginsBlank c

/-- Reads a block scalar inside of a block with the given indentation, which is -1 at the top. -/
def blockScalar (isLiteral : Bool) (parent : Int) (c : Cursor) : Option (Text × Cursor) := do
  let bound := c.rest.length + 1
  let (chomping, digit, c) ← blockHeader (c.skip 1)
  let c ← c.finishLine?
  let given := if digit = 0 then 0 else (max parent 0).toNat + digit
  let (breaks, widest, c) ← blockBreaks given bound 0 [] c
  let indent := if given = 0 then max (max widest (parent + 1).toNat) 1 else given
  let (out, lineBreak, breaks, c) ← blockLines isLiteral indent bound [] [] breaks false c
  let ending :=
    match chomping with
    | .strip => []
    | .clip => lineBreak
    | .keep => breaks ++ lineBreak
  return ((ending ++ out).reverse, c)

end Stencil.Yaml
