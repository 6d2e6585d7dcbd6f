import Stencil.Proofs.Template.First

/-!
# The scan by recursion on the text

The scan is defined through pieces that are collected in accumulators. Here it is brought into the
form in which it is used: `scanFrom` gives the spans of a text that begins at a byte position, with
one equation for each way in which a text can begin, and `scan_induction` is the induction that
follows these ways. A text is empty, or it begins with a token that closes, with opening braces that
nothing closes, or with any other character.
-/

namespace Stencil.Token

/-! ## The ways in which a text begins -/

/-- Neither the character nor the one behind it makes up opening braces with the other one. -/
def IsPlain (c : Char) (s : Text) : Prop :=
  ¬ (c = '{' ∧ s.head? = some '{')

/-- Behind a plain character, the pieces are those of the rest. -/
theorem piecesFrom_plain {c : Char} {s : Text} (h : IsPlain c s) (done : List Piece)
    (plain : Text) : piecesFrom done plain (c :: s) = piecesFrom done (c :: plain) s := by
  rw [piecesFrom]
  rintro body rfl rfl
  exact h ⟨rfl, rfl⟩

/-- Behind opening braces that nothing closes, the pieces are those of the rest. -/
theorem piecesFrom_unclosed {body : Text} (h : bodyLength? body = none) (done : List Piece)
    (plain : Text) :
    piecesFrom done plain ('{' :: '{' :: body) = piecesFrom done ('{' :: '{' :: plain) body := by
  rw [piecesFrom, h]

/-- What holds of the empty text, and of a text whenever it holds of what the scan goes on with,
holds of every text. -/
theorem scan_induction {motive : Text → Prop} (nil : motive [])
    (token : ∀ inner after, Closes inner → motive after →
      motive ('{' :: '{' :: (inner ++ '}' :: '}' :: after)))
    (unclosed : ∀ body, bodyLength? body = none → motive body → motive ('{' :: '{' :: body))
    (plain : ∀ c s, IsPlain c s → motive s → motive (c :: s)) (s : Text) : motive s := by
  induction hn : s.length using Nat.strongRecOn generalizing s with
  | ind n ih =>
    match s with
    | [] => exact nil
    | c :: s =>
      by_cases hplain : IsPlain c s
      · exact plain c s hplain (ih _ (hn ▸ Nat.lt_succ_self _) s rfl)
      · obtain ⟨rfl, hhead⟩ := not_not.1 hplain
        obtain ⟨body, rfl⟩ := List.head?_eq_some_iff.1 hhead
        cases hbody : bodyLength? body with
        | none =>
          refine unclosed body hbody (ih _ ?_ body rfl)
          simp only [List.length_cons] at hn
          omega
        | some m =>
          obtain ⟨inner, after, rfl, -, hinner⟩ := closes_of_bodyLength? hbody
          refine token inner after hinner (ih _ ?_ after rfl)
          simp only [List.length_cons, List.length_append] at hn
          omega

/-! ## Spans -/

/-- The spans of the tokens of a text that begins at a byte position. -/
def scanFrom (pos : Nat) (s : Text) : List Span :=
  spansFrom [] pos (pieces s)

/-- Plain text that has been read only moves the position. -/
theorem spansFrom_piecesFrom (pos : Nat) (plain s : Text) :
    spansFrom [] pos (piecesFrom [] plain s) = scanFrom (pos + Text.byteLength plain) s := by
  have hreverse : ∀ s : Text, Text.byteLength s.reverse = Text.byteLength s := by
    intro s
    induction s with
    | nil => rfl
    | cons c s ih => simp [ih, Nat.add_comm]
  induction s using scan_induction generalizing pos plain with
  | nil => simp [scanFrom, pieces, piecesFrom, Piece.ofReverse, spansFrom]
  | token inner after h ih =>
    rw [scanFrom, pieces, piecesFrom_of_closes h, piecesFrom_of_closes h, spansFrom_plain_token,
      spansFrom_plain_token, hreverse]
    rfl
  | unclosed body h ih =>
    rw [scanFrom, pieces, piecesFrom_unclosed h, piecesFrom_unclosed h, ih, ih]
    congr 1
    simp only [Text.byteLength_cons, Text.byteLength_nil]
    omega
  | plain c s h ih =>
    rw [scanFrom, pieces, piecesFrom_plain h, piecesFrom_plain h, ih, ih]
    congr 1
    simp only [Text.byteLength_cons, Text.byteLength_nil]
    omega

/-- There are no spans in the empty text. -/
theorem scanFrom_nil (pos : Nat) : scanFrom pos [] = [] := by
  simp [scanFrom, pieces, piecesFrom, Piece.ofReverse, spansFrom]

/-- A token has the first span, and the spans of what follows come behind it. -/
theorem scanFrom_token {inner : Text} (h : Closes inner) (pos : Nat) (after : Text) :
    scanFrom pos ('{' :: '{' :: (inner ++ '}' :: '}' :: after))
      = ⟨pos, pos + Text.byteLength (braced inner)⟩
        :: scanFrom (pos + Text.byteLength (braced inner)) after := by
  rw [scanFrom, pieces, piecesFrom_of_closes h, spansFrom_plain_token]
  rfl

/-- Opening braces that nothing closes are passed over. -/
theorem scanFrom_unclosed {body : Text} (h : bodyLength? body = none) (pos : Nat) :
    scanFrom pos ('{' :: '{' :: body) = scanFrom (pos + 2) body := by
  rw [scanFrom, pieces, piecesFrom_unclosed h, spansFrom_piecesFrom]
  rfl

/-- A plain character is passed over. -/
theorem scanFrom_plain {c : Char} {s : Text} (h : IsPlain c s) (pos : Nat) :
    scanFrom pos (c :: s) = scanFrom (pos + c.utf8Size) s := by
  rw [scanFrom, pieces, piecesFrom_plain h, spansFrom_piecesFrom]
  rfl

/-- A span starts where the text begins or behind, and has room for the braces of a token. -/
theorem bounds_of_mem_scanFrom {pos : Nat} {s : Text} {span : Span} (h : span ∈ scanFrom pos s) :
    pos ≤ span.start ∧ span.start + 4 ≤ span.stop := by
  induction s using scan_induction generalizing pos with
  | nil =>
    rw [scanFrom_nil] at h
    cases h
  | token inner after hinner ih =>
    rw [scanFrom_token hinner, byteLength_braced] at h
    rcases List.mem_cons.1 h with rfl | h
    · simp only
      omega
    · obtain ⟨hstart, hstop⟩ := ih h
      omega
  | unclosed body hbody ih =>
    rw [scanFrom_unclosed hbody] at h
    obtain ⟨hstart, hstop⟩ := ih h
    omega
  | plain c s hplain ih =>
    rw [scanFrom_plain hplain] at h
    obtain ⟨hstart, hstop⟩ := ih h
    omega

/-- Without an opening brace, there are no tokens. -/
theorem scanFrom_of_not_mem {s : Text} (h : '{' ∉ s) (pos : Nat) : scanFrom pos s = [] := by
  induction s generalizing pos with
  | nil => exact scanFrom_nil pos
  | cons c s ih =>
    obtain ⟨hc, hs⟩ := not_or.1 (List.mem_cons.not.1 h)
    rw [scanFrom_plain fun hopen => hc hopen.1.symm, ih hs]

end Stencil.Token
