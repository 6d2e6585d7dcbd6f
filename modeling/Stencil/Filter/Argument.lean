import Stencil.Provider.Error
import Stencil.Text.Search

/-!
# Filter arguments

An argument is the text between the parentheses of a filter call. One pair of quotes around it is
taken off, and inside of them a backslash stands for the character after it. Commas outside of
quotes separate several arguments.
-/

namespace Stencil.Argument

/-- Resolves backslashes: each stands for the character after it, and one at the end for nothing. -/
def unescape : Text → Text
  | [] => []
  | ['\\'] => []
  | '\\' :: c :: s => c :: unescape s
  | c :: s => c :: unescape s

/-- Takes off the quotes of a text that begins and ends with the same quote, and resolves the
backslashes inside. Any other text is returned as it is. -/
def unquote (s : Text) : Text :=
  match s with
  | q :: rest =>
    if (q = '"' ∨ q = '\'') ∧ rest.getLast? = some q then unescape rest.dropLast else s
  | [] => s

/-- The parts of an argument. `done` holds the parts so far, the last one first, `part` the
characters of the next part, the last one first, and `quote` the quote that is open. -/
def splitFrom (done : List Text) (part : Text) (quote : Option Char) : Text → List Text
  | [] => (unquote (Text.trim part.reverse) :: done).reverse
  | ['\\'] => (unquote (Text.trim ('\\' :: part).reverse) :: done).reverse
  | '\\' :: c :: s => splitFrom done (c :: '\\' :: part) quote s
  | c :: s =>
    match quote with
    | some q => splitFrom done (c :: part) (if c = q then none else some q) s
    | none =>
      if c = ',' then splitFrom (unquote (Text.trim part.reverse) :: done) [] none s
      else splitFrom done (c :: part) (if c = '"' ∨ c = '\'' then some c else none) s

/-- Splits an argument at the commas outside of quotes; each part is trimmed and unquoted. -/
def split (s : Text) : List Text :=
  splitFrom [] [] none s

/-- Reads a number of 64 bits without a sign. A plus sign may stand before it. -/
def number? (s : Text) : Option Nat :=
  let ds := if s.head? = some '+' then s.drop 1 else s
  if ds.isEmpty || !ds.all Char.isDigit then none
  else
    let n := Text.digitsValue ds
    if n < UInt64.size then some n else none

/-- An argument that is a text. -/
def text (filter : Text) (arg : Option Text) : Except ProviderError Text :=
  match arg with
  | none => .error (.missingArgument filter)
  | some s => .ok (unquote (Text.trim s))

/-- An argument that is a count. -/
def count (filter : Text) (arg : Option Text) : Except ProviderError Nat :=
  match arg with
  | none => .error (.missingArgument filter)
  | some s =>
    match number? (Text.trim (unquote (Text.trim s))) with
    | some n => .ok n
    | none =>
      .error (.invalidArgument filter
        ('\'' :: s ++ "' is not a non-negative integer".toList))

end Stencil.Argument
