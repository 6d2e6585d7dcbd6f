import Stencil.Template.Placeholder
import Stencil.Template.Token

/-!
# Templates

A parsed template lists its distinct placeholders in order of first appearance and, for each
occurrence in the text, the byte span and the index of the placeholder. Filling a template puts a
text in the place of each token and copies the rest; what has been put in is not read again.
-/

namespace Stencil

/-- A place in the document where a placeholder stands. -/
structure Occurrence where
  span : Token.Span
  /-- The index of the placeholder in the list of distinct placeholders. -/
  index : Nat
  deriving DecidableEq, Repr

/-- A text that has been cut into plain text and placeholders. -/
structure Template where
  text : Text
  pieces : List Token.Piece
  placeholders : List Placeholder
  occurrences : List Occurrence

namespace Template

/-- The tokens among the pieces, in document order. -/
def tokens (pieces : List Token.Piece) : List Text :=
  pieces.filterMap Token.Piece.token?

/-- Cuts a text into pieces, and lists its distinct placeholders and their occurrences. -/
def parse (text : Text) : Template :=
  let pieces := Token.pieces text
  let tokens := tokens pieces
  let raws := tokens.eraseDups
  { text
    pieces
    placeholders := raws.map Placeholder.parse
    occurrences :=
      List.zipWith (fun span raw => ⟨span, raws.idxOf raw⟩) (Token.spansFrom [] 0 pieces) tokens }

/-- Puts a text in the place of each token; a token without one is left as it is. -/
def fill (t : Template) (value? : Text → Option Text) : Text :=
  t.pieces.flatMap fun
    | .plain s => s
    | .token raw => (value? raw).getD raw

/-- The malformed placeholders. -/
def malformed (t : Template) : List Placeholder :=
  t.placeholders.filter Placeholder.isMalformed

end Template

end Stencil
