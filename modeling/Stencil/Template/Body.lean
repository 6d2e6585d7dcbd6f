import Stencil.Template.ParseError
import Stencil.Text.Property.Blank
import Stencil.Text.Search

/-!
# Placeholder bodies

The grammar of the text between double braces:

    body     = '/' char+ | '$' variable
    variable = ident ('.' key)? (':' filter)* ('|default=' char*)?
    filter   = ident ('(' argument ')')?
    argument = (quoted | a character other than ( ) ' ")*

A quoted stretch runs from a quote to the same quote, and in it a backslash takes the next character
with it. A key runs over all characters but blanks and `:` `|` `(` `)` `}`. Arguments and defaults
are kept verbatim; in the path of a file reference `\}` stands for `}`.

The parser reads from left to right without going back. Every step returns what is left, so the
offset of an error is the length of the body less the length of what is left.
-/

namespace Stencil

/-- One call in a filter chain. The argument is `none` without parentheses. -/
structure FilterCall where
  name : Text
  arg : Option Text
  deriving DecidableEq, Repr

/-- A reference to a value that a provider supplies. -/
structure Variable where
  typeName : Text
  key : Text
  filters : List FilterCall
  /-- The literal that is used when the provider has nothing to offer. -/
  fallback : Option Text
  deriving DecidableEq, Repr

/-- What stands between the braces of a placeholder. -/
inductive Body
  | file (path : Text)
  | lookup (v : Variable)
  | malformed (error : ParseError)
  deriving DecidableEq, Repr

namespace Body

/-! ## Characters -/

/-- An identifier begins with an ASCII letter or an underscore. -/
def isIdentStart (c : Char) : Bool :=
  c.isAlpha || c = '_'

/-- An identifier goes on with ASCII letters, digits, underscores and hyphens. -/
def isIdentChar (c : Char) : Bool :=
  c.isAlphanum || c = '_' || c = '-'

/-- The characters of keys. -/
def isKeyChar (c : Char) : Bool :=
  !(c = ':' || c = '|' || c = '(' || c = ')' || c = '}') && !isBlank c

/-- Reads an identifier and returns it with what is left. -/
def ident? (s : Text) : Option (Text × Text) :=
  match s with
  | c :: _ =>
    if isIdentStart c then some (s.takeWhile isIdentChar, s.dropWhile isIdentChar) else none
  | [] => none

/-! ## Filter calls -/

/-- Why an argument does not end. -/
inductive ArgumentFault
  | unterminated
  | nested
  | openQuote
  deriving DecidableEq, Repr

/-- Counts the characters of an argument, beginning at `n`, up to the parenthesis that closes it.
`quote` is the quote that is open. -/
def argumentLength (quote : Option Char) (n : Nat) : Text → Except ArgumentFault Nat
  | [] => .error (if quote.isSome then .openQuote else .unterminated)
  | c :: s =>
    match quote with
    | some q =>
      if c = '\\' then
        match s with
        | [] => .error .openQuote
        | _ :: s => argumentLength quote (n + 2) s
      else argumentLength (if c = q then none else quote) (n + 1) s
    | none =>
      if c = ')' then .ok n
      else if c = '(' then .error .nested
      else argumentLength (if c = '"' ∨ c = '\'' then some c else none) (n + 1) s

/-- The byte offset of what is left of a body. -/
def offset (body rest : Text) : Nat :=
  Text.byteLength body - Text.byteLength rest

/-- Reads one filter call behind its colon and returns it with what is left. -/
def filter (body s : Text) : Except ParseError (FilterCall × Text) :=
  match ident? s with
  | none => .error (.missingFilterName (offset body s))
  | some (name, '(' :: s) =>
    match argumentLength none 0 s with
    | .ok n => .ok (⟨name, some (s.take n)⟩, s.drop (n + 1))
    | .error .unterminated => .error (.unterminatedArgument name)
    | .error .nested => .error (.nestedParentheses name)
    | .error .openQuote => .error (.unterminatedQuote name)
  | some (name, s) => .ok (⟨name, none⟩, s)

/-- What `dropWhile` leaves is no longer than the list. -/
theorem length_dropWhile_le (p : Char → Bool) (s : Text) : (s.dropWhile p).length ≤ s.length :=
  (List.dropWhile_suffix p).length_le

/-- A filter call takes something away or nothing. -/
theorem length_filter_le {body s : Text} {call : FilterCall} {rest : Text}
    (h : filter body s = .ok (call, rest)) : rest.length ≤ s.length := by
  have hident : ∀ {name r}, ident? s = some (name, r) → r.length ≤ s.length := by
    intro name r hr
    cases s with
    | nil => simp [ident?] at hr
    | cons c s =>
      simp only [ident?, Option.ite_none_right_eq_some, Option.some.injEq, Prod.mk.injEq] at hr
      rw [← hr.2.2]
      exact length_dropWhile_le _ _
  unfold filter at h
  split at h
  · cases h
  · rename_i name s' heq
    have := hident heq
    split at h
    · cases h
      simp only [List.length_drop, List.length_cons] at *
      omega
    all_goals cases h
  · rename_i name s' _ heq
    cases h
    exact hident heq

/-- Reads filter calls for as long as a colon follows. -/
def filters (body : Text) (done : List FilterCall) (s : Text) :
    Except ParseError (List FilterCall × Text) :=
  match s with
  | ':' :: s =>
    match h : filter body s with
    | .ok (call, rest) =>
      have : rest.length ≤ s.length := length_filter_le h
      filters body (call :: done) rest
    | .error e => .error e
  | s => .ok (done.reverse, s)
termination_by s.length

/-! ## Variables -/

/-- Reads the key behind the type name, which is the type name itself where no dot follows. -/
def key (typeName : Text) : Text → Except ParseError (Text × Text)
  | '.' :: s =>
    match s.takeWhile isKeyChar with
    | [] => .error .missingKey
    | k => .ok (k, s.dropWhile isKeyChar)
  | s => .ok (typeName, s)

/-- Reads what follows the filters: a default literal, or the end. -/
def ending (body : Text) : Text → Except ParseError (Option Text)
  | [] => .ok none
  | '|' :: s =>
    match Text.dropMark? "default=".toList s with
    | some literal => .ok (some literal)
    | none => .error .invalidDefault
  | c :: s => .error (.unexpectedChar c (offset body (c :: s)))

/-- Reads a variable behind its dollar sign. -/
def parseVariable (body s : Text) : Except ParseError Variable := do
  let (typeName, s) ← (ident? s).elim (.error .missingIdentifier) .ok
  let (key, s) ← key typeName s
  let (filters, s) ← filters body [] s
  let fallback ← ending body s
  return ⟨typeName, key, filters, fallback⟩

/-! ## Bodies -/

/-- The path of a file reference: `\}` stands for `}`. -/
def unescapePath (s : Text) : Text :=
  Text.replace ['\\', '}'] ['}'] s

/-- Classifies the text between the braces. -/
def parse (body : Text) : Body :=
  match body with
  | [] => .malformed .empty
  | ['/'] => .malformed .emptyPath
  | '/' :: _ => .file (unescapePath body)
  | '$' :: s =>
    match parseVariable body s with
    | .ok v => .lookup v
    | .error e => .malformed e
  | _ :: _ => .malformed .unknownForm

end Body

end Stencil
