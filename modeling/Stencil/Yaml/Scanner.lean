import Stencil.Yaml.Property

/-!
# Cutting YAML into tokens

The scanner reads a text from left to right. Two things make tokens of what is not written: a line
that is indented deeper begins a block collection, and a colon makes a key of the scalar or
collection before it. Where such a key may begin is remembered until the line ends; a key at the
indentation of its block that is not followed by a colon is an error.

Every step returns `none` where the text is not well-formed.
-/

namespace Stencil.Yaml

/-- A place where a key may begin that has no mark of its own. -/
structure SimpleKey where
  /-- The number of tokens before it. -/
  number : Nat
  /-- Whether there has to be a colon. -/
  required : Bool
  index : Nat
  line : Nat
  column : Nat

/-- The state of the scanner. -/
structure Scanner where
  cursor : Cursor
  /-- The tokens so far, the last one first. -/
  tokens : List Token := []
  /-- The number of tokens so far. -/
  count : Nat := 0
  /-- The place where the current key may begin. -/
  key : Option SimpleKey := none
  /-- The places outside of each flow collection that is open, the innermost first. -/
  outerKeys : List (Option SimpleKey) := []
  /-- The column of the innermost block collection, or -1. -/
  indent : Int := -1
  /-- The columns of the block collections around it, the innermost first. -/
  outerIndents : List Int := []
  /-- Whether a key may begin here. -/
  keyAllowed : Bool := true

namespace Scanner

/-- The number of characters that a key may have before its colon. -/
def maxKeyLength : Nat := 1024

variable (st : Scanner)

/-- Whether a flow collection is open. -/
def inFlow : Bool :=
  !st.outerKeys.isEmpty

/-- The column of the cursor. -/
def column : Int :=
  st.cursor.column

/-! ## Tokens and indentation -/

/-- Adds a token. -/
def emit (t : Token) : Scanner :=
  { st with tokens := t :: st.tokens, count := st.count + 1 }

/-- Adds a token behind the first `number` tokens. -/
def insertAt (number : Nat) (t : Token) : Scanner :=
  let later := st.count - number
  { st with
    tokens := st.tokens.take later ++ t :: st.tokens.drop later
    count := st.count + 1 }

/-- Adds a token that is written as one character. -/
def emitMark (t : Token) : Scanner :=
  { st.emit t with cursor := st.cursor.skip 1 }

/-- Ends the block collections that are indented deeper than a column. -/
def unroll (column : Int) : Scanner :=
  if st.inFlow then st else go st.outerIndents st
where
  /-- Ends block collections, given the columns around the innermost. -/
  go : List Int → Scanner → Scanner
    | [], st => st
    | outer :: rest, st =>
      if st.indent > column then
        go rest { st.emit .blockEnd with indent := outer, outerIndents := rest }
      else st

/-- Begins a block collection at a column, behind the first `number` tokens, unless one is open
there. -/
def roll (column : Nat) (number : Nat) (t : Token) : Scanner :=
  if !st.inFlow && st.indent < column then
    { st.insertAt number t with indent := column, outerIndents := st.indent :: st.outerIndents }
  else st

/-! ## Keys without a mark -/

/-- Gives up the place where the current key may begin. -/
def removeKey : Option Scanner :=
  if st.key.any (·.required) then none else some { st with key := none }

/-- Remembers that a key may begin here. -/
def saveKey : Option Scanner :=
  if st.keyAllowed then
    let c := st.cursor
    st.removeKey.map fun st =>
      { st with
        -- At the indentation of its block nothing but a key can stand.
        key := some ⟨st.count, !st.inFlow && st.indent = c.column, c.index, c.line, c.column⟩ }
  else some st

/-- Whether a key that began at a place can no longer end at the cursor. -/
def isStale (k : SimpleKey) : Bool :=
  k.line < st.cursor.line || k.index + maxKeyLength < st.cursor.index

/-- Gives up the places that the cursor has left behind. -/
def expire : Option Scanner :=
  let check (k : Option SimpleKey) : Option (Option SimpleKey) :=
    match k with
    | some k => if st.isStale k then if k.required then none else some none else some (some k)
    | none => some none
  match check st.key, st.outerKeys.mapM check with
  | some key, some outerKeys => some { st with key, outerKeys }
  | _, _ => none

/-! ## One step for each kind of token -/

/-- Passes over blanks, comments and line breaks. The number bounds the lines. -/
def skipGap : Nat → Scanner → Scanner
  | 0, st => st
  | bound + 1, st =>
    let tabs := st.inFlow || !st.keyAllowed
    let c := st.cursor.skipWhile fun x => x = ' ' || (tabs && x = '\t')
    let c := if c.peek? = some '#' then c.skipWhile (!isBreak ·) else c
    if c.sees isBreak then
      skipGap bound { st with cursor := c.lineBreak.2, keyAllowed := st.keyAllowed || !st.inFlow }
    else { st with cursor := c }

/-- Ends the text. -/
def fetchEnd : Option Scanner := do
  let st ← (st.unroll (-1)).removeKey
  return st.emit .streamEnd

/-- Reads a directive. -/
def fetchDirective : Option Scanner := do
  let st ← (st.unroll (-1)).removeKey
  let (token, cursor) ← directive? st.cursor
  return { st.emit token with cursor, keyAllowed := false }

/-- Reads the mark of a document's start or end. -/
def fetchDocumentMark : Option Scanner := do
  let st ← (st.unroll (-1)).removeKey
  let token : Token := if st.cursor.peek? = some '-' then .documentStart else .documentEnd
  return { st.emit token with cursor := st.cursor.skip 3, keyAllowed := false }

/-- Begins a flow collection. -/
def beginFlow (t : Token) : Option Scanner := do
  let st ← st.saveKey
  return { st.emitMark t with
    key := none, outerKeys := st.key :: st.outerKeys, keyAllowed := true }

/-- Ends a flow collection. -/
def endFlow (t : Token) : Option Scanner := do
  let st ← st.removeKey
  let st :=
    match st.outerKeys with
    | [] => st
    | key :: rest => { st with key, outerKeys := rest }
  return { st.emitMark t with keyAllowed := false }

/-- Reads a comma of a flow collection. -/
def fetchFlowEntry : Option Scanner := do
  let st ← st.removeKey
  return { st.emitMark .flowEntry with keyAllowed := true }

/-- Reads the hyphen of a block sequence. -/
def fetchBlockEntry : Option Scanner := do
  if !st.inFlow && !st.keyAllowed then none
  else
    let st ← (st.roll st.cursor.column st.count .blockSequenceStart).removeKey
    return { st.emitMark .blockEntry with keyAllowed := true }

/-- Reads the question mark of a key. -/
def fetchKey : Option Scanner := do
  if !st.inFlow && !st.keyAllowed then none
  else
    let st ← (st.roll st.cursor.column st.count .blockMappingStart).removeKey
    return { st.emitMark .key with keyAllowed := !st.inFlow }

/-- Reads the colon of a value. -/
def fetchValue : Option Scanner := do
  match st.key with
  | some k =>
    -- The key goes first, so that a mapping which begins with it is put before it.
    let st := (st.insertAt k.number .key).roll k.column k.number .blockMappingStart
    return { st.emitMark .value with key := none, keyAllowed := false }
  | none =>
    if !st.inFlow && !st.keyAllowed then none
    else
      let st := st.roll st.cursor.column st.count .blockMappingStart
      return { st.emitMark .value with keyAllowed := !st.inFlow }

/-- Reads an alias or an anchor. -/
def fetchAnchor (isAlias : Bool) : Option Scanner := do
  let st ← st.saveKey
  let (name, cursor) ← anchorName? st.cursor
  let token : Token := if isAlias then .reference name else .anchor name
  return { st.emit token with cursor, keyAllowed := false }

/-- Reads a tag. -/
def fetchTag : Option Scanner := do
  let st ← st.saveKey
  let (token, cursor) ← tag? st.inFlow st.cursor
  return { st.emit token with cursor, keyAllowed := false }

/-- Reads a block scalar. -/
def fetchBlockScalar (style : Style) : Option Scanner := do
  let st ← st.removeKey
  let (s, cursor) ← blockScalar (style = .literal) st.indent st.cursor
  return { st.emit (.scalar s style) with cursor, keyAllowed := true }

/-- Reads a quoted scalar. -/
def fetchQuoted (quote : Char) (style : Style) : Option Scanner := do
  let st ← st.saveKey
  let (s, cursor) ← quotedScalar quote st.cursor
  return { st.emit (.scalar s style) with cursor, keyAllowed := false }

/-- Reads a plain scalar. -/
def fetchPlain : Option Scanner := do
  let st ← st.saveKey
  let (s, broken, cursor) ← plainScalar st.inFlow (st.indent + 1).toNat st.cursor
  return { st.emit (.scalar s .plain) with cursor, keyAllowed := broken }

/-! ## The next token -/

/-- Whether a plain scalar begins with a character, given what follows it. -/
def beginsPlain (c : Char) (s : Text) : Bool :=
  if isSpace c || isBreak c then false
  else if c = '-' then !s.head?.any isSpace
  else if c = '?' || c = ':' then !st.inFlow && !isClear s
  else c ∉ ",[]\x7b\x7d#&*!|>'\"%@\x60".toList

/-- Reads the token at the cursor. -/
def fetch : Option Scanner :=
  match st.cursor.rest with
  | [] => st.fetchEnd
  | c :: s =>
    if st.cursor.column = 0 ∧ c = '%' then st.fetchDirective
    else if st.cursor.atMark then st.fetchDocumentMark
    else if c = '[' then st.beginFlow .flowSequenceStart
    else if c = '\x7b' then st.beginFlow .flowMappingStart
    else if c = ']' then st.endFlow .flowSequenceEnd
    else if c = '\x7d' then st.endFlow .flowMappingEnd
    else if c = ',' then st.fetchFlowEntry
    -- These three marks count only before a blank, but in a flow collection the last two count
    -- anywhere.
    else if c = '-' ∧ isClear s then st.fetchBlockEntry
    else if c = '?' ∧ (st.inFlow ∨ isClear s) then st.fetchKey
    else if c = ':' ∧ (st.inFlow ∨ isClear s) then st.fetchValue
    else if c = '*' then st.fetchAnchor true
    else if c = '&' then st.fetchAnchor false
    else if c = '!' then st.fetchTag
    else if c = '|' ∧ !st.inFlow then st.fetchBlockScalar .literal
    else if c = '>' ∧ !st.inFlow then st.fetchBlockScalar .folded
    else if c = '\'' then st.fetchQuoted '\'' .singleQuoted
    else if c = '"' then st.fetchQuoted '"' .doubleQuoted
    -- What is left begins a plain scalar or nothing at all.
    else if st.beginsPlain c s then st.fetchPlain
    else none

/-- Reads tokens up to the end of the text. The number bounds the tokens that are written. -/
def run : Nat → Scanner → Option (List Token)
  | 0, _ => none
  | bound + 1, st => do
    let st ← (st.skipGap (st.cursor.rest.length + 1)).expire
    let isLast := st.cursor.rest.isEmpty
    let st ← (st.unroll st.column).fetch
    if isLast then some st.tokens.reverse
    else
      let st ← st.expire
      run bound st

end Scanner

/-- The tokens of a text. A mark of the byte order at its start is passed over. -/
def scan (s : Text) : Option (List Token) :=
  let s := if s.head? = some '\ufeff' then s.drop 1 else s
  if s.all isAllowed then Scanner.run (s.length + 1) { cursor := { rest := s } } else none

end Stencil.Yaml
