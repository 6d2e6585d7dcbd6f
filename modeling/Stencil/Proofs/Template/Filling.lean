import Mathlib
import Stencil.Proofs.Template.Placeholders
import Stencil.Proofs.Template.Scan

/-!
# Filling a template

`Spliced` says what it means that occurrences are replaced in a text, by the byte spans and indices
that a template records and apart from the pieces it was cut into. `fill_eq_iff_spliced` says that
filling a parsed template does this and nothing else: what is outside of the spans is copied, each
token makes way for its value, and no value is read again. A template whose tokens stand for
themselves is filled to its own text.

Both are read off the text by `scan_induction`, for which the pieces of a text are brought into the
form of one plain piece and a rest (`exists_pieces_eq_cons`).
-/

namespace Stencil

/-! ## Pieces by recursion on the text -/

namespace Token

/-- The pieces of a text begin with a plain one, to which plain text before it is added. -/
theorem exists_pieces_eq_cons (s : Text) :
    ∃ t rest, ∀ plain, piecesFrom [] plain s = .plain (plain.reverse ++ t) :: rest := by
  induction s using scan_induction with
  | nil => exact ⟨[], [], fun plain => by simp [piecesFrom, Piece.ofReverse]⟩
  | token inner after h _ =>
    exact ⟨[], _, fun plain => by rw [piecesFrom_of_closes h, List.append_nil]⟩
  | unclosed body h ih =>
    obtain ⟨t, rest, hrest⟩ := ih
    refine ⟨'{' :: '{' :: t, rest, fun plain => ?_⟩
    rw [piecesFrom_unclosed h, hrest]
    simp
  | plain c s h ih =>
    obtain ⟨t, rest, hrest⟩ := ih
    refine ⟨c :: t, rest, fun plain => ?_⟩
    rw [piecesFrom_plain h, hrest]
    simp

/-- Plain text that has been read is put in front of what the pieces are turned into, if plain
pieces are copied. -/
theorem flatMap_piecesFrom {f : Piece → Text} (hf : ∀ s, f (.plain s) = s) (plain s : Text) :
    (piecesFrom [] plain s).flatMap f = plain.reverse ++ (pieces s).flatMap f := by
  obtain ⟨t, rest, hrest⟩ := exists_pieces_eq_cons s
  rw [pieces, hrest, hrest]
  simp [hf]

/-- Plain text that has been read has no tokens. -/
theorem tokens_piecesFrom (plain s : Text) :
    Template.tokens (piecesFrom [] plain s) = Template.tokens (pieces s) := by
  obtain ⟨t, rest, hrest⟩ := exists_pieces_eq_cons s
  rw [pieces, hrest, hrest]
  rfl

end Token

/-! ## Splicing -/

/-- The second text is the first, which begins at a byte position, with the occurrences replaced:
where the next occurrence begins, its token makes way for the value, or stays if there is none, and
elsewhere a character is kept. -/
inductive Spliced (placeholders : List Placeholder) (value? : Text → Option Text) :
    Nat → List Occurrence → Text → Text → Prop
  | done {pos : Nat} : Spliced placeholders value? pos [] [] []
  | replaced {pos : Nat} {o : Occurrence} {os : List Occurrence} {p : Placeholder} {s t : Text}
      (hp : placeholders[o.index]? = some p)
      (hspan : o.span = ⟨pos, pos + Text.byteLength p.raw⟩)
      (h : Spliced placeholders value? o.span.stop os s t) :
      Spliced placeholders value? pos (o :: os) (p.raw ++ s) ((value? p.raw).getD p.raw ++ t)
  | kept {pos : Nat} {os : List Occurrence} {c : Char} {s t : Text}
      (hstart : ∀ o ∈ os.head?, o.span.start ≠ pos)
      (h : Spliced placeholders value? (pos + c.utf8Size) os s t) :
      Spliced placeholders value? pos os (c :: s) (c :: t)

variable {placeholders : List Placeholder} {value? : Text → Option Text}

/-- There is only one text that is another one with the occurrences replaced. -/
theorem Spliced.unique {pos : Nat} {os : List Occurrence} {s t t' : Text}
    (h : Spliced placeholders value? pos os s t) (h' : Spliced placeholders value? pos os s t') :
    t = t' := by
  induction h generalizing t' with
  | done =>
    cases h'
    rfl
  | @replaced pos o os p s t hp hspan h ih =>
    generalize hs : p.raw ++ s = s' at h'
    cases h' with
    | @replaced _ _ _ p' _ _ hp' _ h' =>
      obtain rfl : p = p' := Option.some.inj (hp.symm.trans hp')
      obtain rfl := List.append_cancel_left hs
      rw [ih h']
    | kept hstart => exact absurd (congrArg Token.Span.start hspan) (hstart o rfl)
  | @kept pos os c s t hstart h ih =>
    generalize hs : c :: s = s' at h'
    cases h' with
    | done => cases hs
    | @replaced _ o _ _ _ _ _ hspan => exact absurd (congrArg Token.Span.start hspan) (hstart o rfl)
    | kept _ h' =>
      cases hs
      rw [ih h']

/-- Where every token stands for itself, the text stays the same. -/
theorem Spliced.eq_of_self {pos : Nat} {os : List Occurrence} {s t : Text}
    (h : Spliced placeholders value? pos os s t)
    (hself : ∀ p ∈ placeholders, ∀ v ∈ value? p.raw, v = p.raw) : t = s := by
  induction h with
  | done => rfl
  | @replaced pos o os p s t hp hspan h ih =>
    have hvalue : (value? p.raw).getD p.raw = p.raw := by
      cases hv : value? p.raw with
      | none => rfl
      | some v => exact hself p (List.mem_of_getElem? hp) v hv
    rw [hvalue, ih]
  | kept _ _ ih => rw [ih]

namespace Template

/-- The occurrences of the tokens of a text that begins at a byte position, by their place in a list
of tokens. -/
def occurrencesFrom (raws : List Text) (pos : Nat) (s : Text) : List Occurrence :=
  List.zipWith (fun span raw => ⟨span, raws.idxOf raw⟩) (Token.scanFrom pos s)
    (tokens (Token.pieces s))

/-- A text with values in the place of its tokens. -/
def filled (value? : Text → Option Text) (s : Text) : Text :=
  (Token.pieces s).flatMap fun
    | .plain s => s
    | .token raw => (value? raw).getD raw

section Equations

variable {inner body : Text} (raws : List Text) (value? : Text → Option Text) (pos : Nat)

/-- The tokens are a token and those behind it. -/
theorem tokens_pieces_token (h : Token.Closes inner) (after : Text) :
    tokens (Token.pieces ('{' :: '{' :: (inner ++ '}' :: '}' :: after)))
      = Token.braced inner :: tokens (Token.pieces after) := by
  rw [Token.pieces, Token.piecesFrom_of_closes h]
  rfl

/-- Opening braces that nothing closes have no tokens in them. -/
theorem tokens_pieces_unclosed (h : Token.bodyLength? body = none) :
    tokens (Token.pieces ('{' :: '{' :: body)) = tokens (Token.pieces body) := by
  rw [Token.pieces, Token.piecesFrom_unclosed h, Token.tokens_piecesFrom]

/-- Plain text has no tokens in it. -/
theorem tokens_pieces_plain {c : Char} {s : Text} (h : Token.IsPlain c s) :
    tokens (Token.pieces (c :: s)) = tokens (Token.pieces s) := by
  rw [Token.pieces, Token.piecesFrom_plain h, Token.tokens_piecesFrom]

/-- A token occurs where it begins. -/
theorem occurrencesFrom_token (h : Token.Closes inner) (after : Text) :
    occurrencesFrom raws pos ('{' :: '{' :: (inner ++ '}' :: '}' :: after))
      = ⟨⟨pos, pos + Text.byteLength (Token.braced inner)⟩, raws.idxOf (Token.braced inner)⟩
        :: occurrencesFrom raws (pos + Text.byteLength (Token.braced inner)) after := by
  rw [occurrencesFrom, Token.scanFrom_token h, tokens_pieces_token h]
  rfl

/-- There are no occurrences in opening braces that nothing closes. -/
theorem occurrencesFrom_unclosed (h : Token.bodyLength? body = none) :
    occurrencesFrom raws pos ('{' :: '{' :: body)
      = occurrencesFrom raws (pos + '{'.utf8Size + '{'.utf8Size) body := by
  rw [occurrencesFrom, Token.scanFrom_unclosed h, tokens_pieces_unclosed h]
  rfl

/-- There are no occurrences in plain text. -/
theorem occurrencesFrom_plain {c : Char} {s : Text} (h : Token.IsPlain c s) :
    occurrencesFrom raws pos (c :: s) = occurrencesFrom raws (pos + c.utf8Size) s := by
  rw [occurrencesFrom, Token.scanFrom_plain h, tokens_pieces_plain h]
  rfl

/-- A token makes way for its value. -/
theorem filled_token (h : Token.Closes inner) (after : Text) :
    filled value? ('{' :: '{' :: (inner ++ '}' :: '}' :: after))
      = (value? (Token.braced inner)).getD (Token.braced inner) ++ filled value? after := by
  rw [filled, Token.pieces, Token.piecesFrom_of_closes h]
  rfl

/-- Opening braces that nothing closes stay. -/
theorem filled_unclosed (h : Token.bodyLength? body = none) :
    filled value? ('{' :: '{' :: body) = '{' :: '{' :: filled value? body := by
  rw [filled, Token.pieces, Token.piecesFrom_unclosed h, Token.flatMap_piecesFrom fun _ => rfl]
  rfl

/-- Plain text stays. -/
theorem filled_plain {c : Char} {s : Text} (h : Token.IsPlain c s) :
    filled value? (c :: s) = c :: filled value? s := by
  rw [filled, Token.pieces, Token.piecesFrom_plain h, Token.flatMap_piecesFrom fun _ => rfl]
  rfl

end Equations

/-- An occurrence starts where the text begins or behind. -/
theorem le_start_of_mem_occurrencesFrom {raws : List Text} {pos : Nat} {s : Text} {o : Occurrence}
    (h : o ∈ occurrencesFrom raws pos s) : pos ≤ o.span.start := by
  obtain ⟨i, hi⟩ := List.mem_iff_getElem?.1 h
  rw [occurrencesFrom, List.getElem?_zipWith_eq_some] at hi
  obtain ⟨span, raw, hspan, -, rfl⟩ := hi
  exact (Token.bounds_of_mem_scanFrom (List.mem_of_getElem? hspan)).1

/-- A character is kept if the occurrences come behind it. -/
theorem spliced_kept {raws : List Text} {pos pos' : Nat} {c : Char} {s s' t : Text}
    (hpos : pos + c.utf8Size ≤ pos')
    (h : Spliced placeholders value? (pos + c.utf8Size) (occurrencesFrom raws pos' s') s t) :
    Spliced placeholders value? pos (occurrencesFrom raws pos' s') (c :: s) (c :: t) := by
  refine .kept (fun o ho => ?_) h
  have hstart := le_start_of_mem_occurrencesFrom (List.mem_of_mem_head? ho)
  have hc := c.utf8Size_pos
  omega

/-- Values in the place of the tokens of a text are spliced in at their occurrences, as long as
every token is in the list that the indices point to. -/
theorem spliced_filled {raws : List Text} (value? : Text → Option Text) (pos : Nat) (s : Text)
    (hraws : ∀ raw ∈ tokens (Token.pieces s), raw ∈ raws) :
    Spliced (raws.map Placeholder.parse) value? pos (occurrencesFrom raws pos s) s
      (filled value? s) := by
  induction s using Token.scan_induction generalizing pos with
  | nil =>
    have hfilled : filled value? [] = [] := by
      simp [filled, Token.pieces, Token.piecesFrom, Token.Piece.ofReverse]
    rw [occurrencesFrom, Token.scanFrom_nil, hfilled]
    exact .done
  | token inner after h ih =>
    rw [tokens_pieces_token h] at hraws
    obtain ⟨hraw, hafter⟩ := List.forall_mem_cons.1 hraws
    -- The index of the token points to its placeholder.
    have hp : (raws.map Placeholder.parse)[raws.idxOf (Token.braced inner)]?
        = some (Placeholder.parse (Token.braced inner)) := by
      rw [List.getElem?_map, List.getElem?_idxOf hraw]
      rfl
    have htext : '{' :: '{' :: (inner ++ '}' :: '}' :: after) = Token.braced inner ++ after := by
      simp [Token.braced]
    rw [occurrencesFrom_token raws pos h, filled_token value? h, htext]
    exact .replaced (p := Placeholder.parse (Token.braced inner)) hp rfl (ih _ hafter)
  | unclosed body h ih =>
    rw [tokens_pieces_unclosed h] at hraws
    rw [occurrencesFrom_unclosed raws pos h, filled_unclosed value? h]
    -- Both braces are kept, and all occurrences come behind the second one.
    exact spliced_kept (by omega) (spliced_kept (Nat.le_refl _) (ih _ hraws))
  | plain c s h ih =>
    rw [tokens_pieces_plain h] at hraws
    rw [occurrencesFrom_plain raws pos h, filled_plain value? h]
    exact spliced_kept (Nat.le_refl _) (ih _ hraws)

/-! ## Parsed templates -/

/-- Filling the template of a text splices the values in at the occurrences that it records and does
nothing else. If each token stands for itself, or for nothing, the text stays the same. -/
theorem fill_eq_iff_spliced (text : Text) (value? : Text → Option Text) :
    (∀ out, (parse text).fill value? = out ↔
      Spliced (parse text).placeholders value? 0 (parse text).occurrences text out) ∧
    ((∀ p ∈ (parse text).placeholders, ∀ v ∈ value? p.raw, v = p.raw) →
      (parse text).fill value? = text) := by
  have hspliced : Spliced (parse text).placeholders value? 0 (parse text).occurrences text
      ((parse text).fill value?) :=
    spliced_filled value? 0 text fun raw hraw => List.mem_eraseDups.2 hraw
  refine ⟨fun out => ⟨?_, fun h => hspliced.unique h⟩, hspliced.eq_of_self⟩
  rintro rfl
  exact hspliced

/-- Two tokens, and opening braces that nothing closes. -/
def twoTokens : Text :=
  Token.braced "$x".toList ++ Token.braced "$y".toList ++ "\x7b\x7b".toList

/-- Each token is cut off behind its closing braces, and the braces at the end are plain text. -/
theorem pieces_twoTokens : Token.pieces twoTokens = [.plain [], .token (Token.braced "$x".toList),
    .plain [], .token (Token.braced "$y".toList), .plain "\x7b\x7b".toList] := by
  have hx : Token.Closes "$x".toList := fun _ => rfl
  have hy : Token.Closes "$y".toList := fun _ => rfl
  have hend : Token.pieces "\x7b\x7b".toList = [.plain "\x7b\x7b".toList] := by cbv
  have hafter : Token.pieces (Token.braced "$y".toList ++ "\x7b\x7b".toList)
      = .plain [] :: .token (Token.braced "$y".toList) :: Token.pieces "\x7b\x7b".toList :=
    Token.piecesFrom_of_closes hy [] _
  have htwo : Token.pieces twoTokens = .plain [] :: .token (Token.braced "$x".toList)
      :: Token.pieces (Token.braced "$y".toList ++ "\x7b\x7b".toList) :=
    Token.piecesFrom_of_closes hx [] _
  rw [htwo, hafter, hend]

/-- Gives the first of the two tokens a value. -/
def firstValue (value raw : Text) : Option Text :=
  if raw = Token.braced "$x".toList then some value else none

/-- A value that is a token of the template itself is put in as it is, and the text stays the same
if it is the token that it stands for. -/
theorem fill_two_tokens :
    Spliced (parse twoTokens).placeholders (firstValue (Token.braced "$y".toList)) 0
        [⟨⟨0, 6⟩, 0⟩, ⟨⟨6, 12⟩, 1⟩] twoTokens
        (Token.braced "$y".toList ++ Token.braced "$y".toList ++ "\x7b\x7b".toList) ∧
      (∀ p ∈ (parse twoTokens).placeholders,
        ∀ v ∈ firstValue (Token.braced "$x".toList) p.raw, v = p.raw) ∧
      (parse twoTokens).fill (firstValue (Token.braced "$x".toList)) = twoTokens := by
  have hoccurrences : (parse twoTokens).occurrences = [⟨⟨0, 6⟩, 0⟩, ⟨⟨6, 12⟩, 1⟩] := by
    rw [parse, pieces_twoTokens]
    decide
  have hfill : (parse twoTokens).fill (firstValue (Token.braced "$y".toList))
      = Token.braced "$y".toList ++ Token.braced "$y".toList ++ "\x7b\x7b".toList := by
    rw [fill, parse, pieces_twoTokens]
    decide
  have hself : ∀ p ∈ (parse twoTokens).placeholders,
      ∀ v ∈ firstValue (Token.braced "$x".toList) p.raw, v = p.raw := by
    intro p _ v hv
    obtain ⟨hraw, hv⟩ := Option.ite_none_right_eq_some.1 hv
    rw [hraw, Option.some.inj hv]
  have hspliced := ((fill_eq_iff_spliced twoTokens (firstValue (Token.braced "$y".toList))).1 _).1
    hfill
  rw [hoccurrences] at hspliced
  exact ⟨hspliced, hself, (fill_eq_iff_spliced twoTokens _).2 hself⟩

end Template

end Stencil
