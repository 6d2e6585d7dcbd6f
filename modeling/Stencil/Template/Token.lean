import Stencil.Text.Basic

/-!
# Tokens

A template is plain text with tokens in double braces. `pieces` cuts a text into the two kinds, in
order and without loss: `flatten_pieces` says that the pieces put together are the text.

A token ends at the first closing braces behind its opening braces, with these exceptions. A
backslash takes the next character with it. In a variable token, which begins with a dollar sign,
quotes inside parentheses hide what they enclose, and a default literal outside of parentheses runs
verbatim to the next closing braces. Opening braces that are never closed are plain text.
-/

namespace Stencil.Token

/-! ## Where a token ends -/

/-- The mark that begins a default literal. -/
def defaultMark : Text :=
  "|default=".toList

/-- Counts the characters up to and with the next closing braces, beginning at `n`. -/
def bracesLength? (n : Nat) : Text → Option Nat
  | [] => none
  | '}' :: '}' :: _ => some (n + 2)
  | _ :: s => bracesLength? (n + 1) s

/-- Counts the characters up to and with the braces that close a token, beginning at `n`. The
parameters say whether it is a variable token, how many parentheses are open, and which quote is
open. -/
def closeLength? (isVariable : Bool) (depth : Nat) (quote : Option Char) (n : Nat) :
    Text → Option Nat
  | [] => none
  | ['\\'] => none
  | '\\' :: _ :: s => closeLength? isVariable depth quote (n + 2) s
  | c :: s =>
    match quote with
    | some q => closeLength? isVariable depth (if c = q then none else some q) (n + 1) s
    | none =>
      if c = '}' ∧ s.head? = some '}' then some (n + 2)
      else if isVariable = false then closeLength? isVariable depth none (n + 1) s
      else if c = '(' then closeLength? isVariable (depth + 1) none (n + 1) s
      else if c = ')' then closeLength? isVariable (depth - 1) none (n + 1) s
      else if (c = '"' ∨ c = '\'') ∧ 0 < depth then
        closeLength? isVariable depth (some c) (n + 1) s
      -- Parentheses hide the mark of a default literal.
      else if depth = 0 then
        match Text.dropMark? defaultMark (c :: s) with
        | some literal => bracesLength? (n + defaultMark.length) literal
        | none => closeLength? isVariable depth none (n + 1) s
      else closeLength? isVariable depth none (n + 1) s

/-- The length of a token's body together with its closing braces, in characters; `none` if the
token is not closed. -/
def bodyLength? (body : Text) : Option Nat :=
  closeLength? (body.head? = some '$') 0 none 0 body

/-! ## Pieces -/

/-- A stretch of a template. -/
inductive Piece
  | plain (text : Text)
  | token (raw : Text)
  deriving DecidableEq, Repr

namespace Piece

/-- The characters of a piece. -/
def text : Piece → Text
  | plain s => s
  | token raw => raw

/-- The token, if the piece is one. -/
def token? : Piece → Option Text
  | plain _ => none
  | token raw => some raw

/-- The plain piece that has been read, given its last character first. -/
def ofReverse (plain : Text) : Piece :=
  .plain plain.reverse

end Piece

/-- Cuts a text into pieces. `done` holds the pieces so far, the last one first, and `plain` the
plain text since the last token, the last character first. -/
def piecesFrom (done : List Piece) (plain : Text) (s : Text) : List Piece :=
  match s with
  | [] => (.ofReverse plain :: done).reverse
  | '{' :: '{' :: body =>
    match bodyLength? body with
    | some n =>
      piecesFrom (.token ('{' :: '{' :: body.take n) :: .ofReverse plain :: done) []
        (body.drop n)
    -- Nothing closes the braces, so they are plain text, and the search goes on behind them.
    | none => piecesFrom done ('{' :: '{' :: plain) body
  | c :: s => piecesFrom done (c :: plain) s
termination_by s.length

/-- The pieces of a text: plain text, token, plain text, …, plain text, where plain text may be
empty. -/
def pieces (s : Text) : List Piece :=
  piecesFrom [] [] s

/-! ## Spans -/

/-- A range of byte positions, with the end excluded. -/
structure Span where
  start : Nat
  stop : Nat
  deriving DecidableEq, Repr

/-- The spans of the tokens among the pieces, the first piece beginning at `pos`. `done` holds the
spans so far, the last one first. -/
def spansFrom (done : List Span) (pos : Nat) : List Piece → List Span
  | [] => done.reverse
  | .plain s :: rest => spansFrom done (pos + Text.byteLength s) rest
  | .token raw :: rest =>
    spansFrom (⟨pos, pos + Text.byteLength raw⟩ :: done) (pos + Text.byteLength raw) rest

/-- The byte ranges of the tokens of a text, in document order. -/
def scan (s : Text) : List Span :=
  spansFrom [] 0 (pieces s)

/-! ## Nothing is lost -/

/-- What has been cut off and what is still to be cut make up the text. -/
theorem flatten_piecesFrom (done : List Piece) (plain s : Text) :
    (piecesFrom done plain s).flatMap Piece.text
      = done.reverse.flatMap Piece.text ++ plain.reverse ++ s := by
  fun_induction piecesFrom done plain s with
  | case1 => simp [Piece.text, Piece.ofReverse]
  | case2 done plain body n _ ih =>
    rw [ih]
    simp [Piece.text, Piece.ofReverse]
  | case3 done plain body _ ih => simp [ih]
  | case4 done plain c s _ ih => simp [ih]

/-- The pieces put together are the text. -/
theorem flatten_pieces (s : Text) : (pieces s).flatMap Piece.text = s := by
  simp [pieces, flatten_piecesFrom]

end Stencil.Token
