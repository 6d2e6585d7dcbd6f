import Stencil.Proofs.Template.Closing
import Stencil.Template.Basic

/-!
# The first token of a template

What a template records of the token that comes first in its text: the span behind the plain text
before it, the first place in the list of placeholders, and the reading of what stands between its
braces (`parse_of_pieces`). A body that closes is such a token behind every text without opening
braces (`first_of_closes`).
-/

namespace Stencil

/-- The text between the braces of a token. -/
theorem Placeholder.inner_braced (inner : Text) :
    Placeholder.inner (Token.braced inner) = inner := by
  have hrev : (inner ++ ['}', '}']).reverse = '}' :: '}' :: inner.reverse := by simp
  have hopen : Text.dropMark? ['{', '{'] (Token.braced inner) = some (inner ++ ['}', '}']) := rfl
  have hclose : Text.dropMark? ['}', '}'] ('}' :: '}' :: inner.reverse) = some inner.reverse := rfl
  rw [Placeholder.inner, hopen]
  simp only
  rw [hrev, hclose]
  exact List.reverse_reverse inner

/-- The braces of a token take four bytes. -/
theorem Token.byteLength_braced (inner : Text) :
    Text.byteLength (Token.braced inner) = Text.byteLength inner + 4 := by
  have hleft : '{'.utf8Size = 1 := rfl
  have hright : '}'.utf8Size = 1 := rfl
  simp only [Token.braced, Text.byteLength_cons, Text.byteLength_append, Text.byteLength_nil,
    hleft, hright]
  omega

/-- Spans that are done stand before the others. -/
theorem Token.spansFrom_append (done earlier : List Token.Span) (pos : Nat)
    (pieces : List Token.Piece) :
    Token.spansFrom (done ++ earlier) pos pieces
      = earlier.reverse ++ Token.spansFrom done pos pieces := by
  fun_induction Token.spansFrom done pos pieces with
  | case1 => simp [Token.spansFrom]
  | case2 done pos s rest ih => rw [Token.spansFrom, ih]
  | case3 done pos raw rest ih => rw [Token.spansFrom, ← ih]; rfl

/-- The spans of pieces that begin with plain text and a token at a byte position. -/
theorem Token.spansFrom_plain_token (pos : Nat) (before raw : Text) (rest : List Token.Piece) :
    Token.spansFrom [] pos (.plain before :: .token raw :: rest)
      = ⟨pos + Text.byteLength before, pos + Text.byteLength before + Text.byteLength raw⟩
        :: Token.spansFrom [] (pos + Text.byteLength before + Text.byteLength raw) rest := by
  rw [Token.spansFrom, Token.spansFrom, ← List.nil_append [_], Token.spansFrom_append]
  rfl

/-- The spans of pieces that begin with plain text and a token. -/
theorem Token.spansFrom_cons (before raw : Text) (rest : List Token.Piece) :
    Token.spansFrom [] 0 (.plain before :: .token raw :: rest)
      = ⟨Text.byteLength before, Text.byteLength before + Text.byteLength raw⟩
        :: Token.spansFrom [] (Text.byteLength before + Text.byteLength raw) rest := by
  rw [Token.spansFrom_plain_token, Nat.zero_add]

namespace Template

/-- What a template records of the token that its text begins with, behind plain text. -/
theorem parse_of_pieces {text before raw : Text} {rest : List Token.Piece}
    (h : Token.pieces text = .plain before :: .token raw :: rest) :
    (parse text).occurrences.head?
        = some ⟨⟨Text.byteLength before, Text.byteLength before + Text.byteLength raw⟩, 0⟩ ∧
      (parse text).placeholders.head? = some (Placeholder.parse raw) := by
  have htokens : tokens (Token.pieces text) = raw :: tokens rest := by
    rw [h]
    rfl
  have hraws : (raw :: tokens rest).eraseDups
      = raw :: ((tokens rest).filter fun b => !b == raw).eraseDups := List.eraseDups_cons
  constructor
  · simp only [parse]
    rw [htokens, h, Token.spansFrom_cons, List.zipWith_cons_cons, hraws, List.idxOf_cons_self]
    rfl
  · simp only [parse]
    rw [htokens, hraws]
    rfl

/-- A body that closes is the first token of every text in which it stands in braces, behind text
without opening braces, and the template has what the grammar reads in it. -/
theorem first_of_closes {before inner : Text} (h : Token.Closes inner)
    (hopen : ¬ ['{', '{'] <:+: before) (hend : before.getLast? ≠ some '{') (after : Text) :
    let text := before ++ '{' :: '{' :: (inner ++ '}' :: '}' :: after)
    let span : Token.Span :=
      ⟨Text.byteLength before, Text.byteLength before + Text.byteLength inner + 4⟩
    (Token.scan text).head? = some span ∧ (parse text).occurrences.head? = some ⟨span, 0⟩ ∧
      (parse text).placeholders.head? = some ⟨Token.braced inner, Body.parse inner⟩ := by
  intro text span
  have hpieces := Token.pieces_eq_cons_of_closes hopen hend h after
  have hspan : Text.byteLength before + Text.byteLength (Token.braced inner) = span.stop := by
    rw [Token.byteLength_braced, ← Nat.add_assoc]
  obtain ⟨hoccurrence, hplaceholder⟩ := parse_of_pieces hpieces
  refine ⟨?_, ?_, ?_⟩
  · rw [Token.scan, hpieces, Token.spansFrom_cons, hspan]
    rfl
  · rw [hoccurrence, hspan]
  · rw [hplaceholder, Placeholder.parse, Placeholder.inner_braced]

end Template

end Stencil
