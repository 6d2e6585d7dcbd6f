import Mathlib.Tactic.ByContra
import Stencil.Template.Token

/-!
# Where tokens close

The search for the braces that close a token reads from left to right, and what it finds depends on
nothing behind these braces: `closeLength?_eq_some` says that the text up to them decides. A body
`Closes` if its own braces are found whatever follows. The tokens of a text are exactly bodies of
this kind in braces (`closes_of_mem_pieces`), and a text that begins with such a token behind plain
text has it as its first token (`pieces_eq_cons_of_closes`). In particular a token that stands alone
is one token again (`pieces_of_closes`).
-/

namespace Stencil.Token

/-! ## Braces -/

/-- Two equal elements are at the front of a list. -/
theorem pair_prefix_cons_iff {α : Type} {a x : α} {l : List α} :
    [a, a] <+: x :: l ↔ x = a ∧ l.head? = some a := by
  have hhead : [a] <+: l ↔ l.head? = some a := by
    cases l with
    | nil => simp
    | cons y l => simp [List.cons_prefix_cons, eq_comm]
  rw [List.cons_prefix_cons, hhead, eq_comm]

/-- Two equal elements follow each other in a list at its front or behind. -/
theorem pair_infix_cons_iff {α : Type} {a x : α} {l : List α} :
    [a, a] <:+: x :: l ↔ (x = a ∧ l.head? = some a) ∨ [a, a] <:+: l := by
  rw [List.infix_cons_iff, pair_prefix_cons_iff]

/-- A character that does not begin closing braces is counted. -/
theorem bracesLength?_cons {n : Nat} {c : Char} {s : Text}
    (h : ¬ (c = '}' ∧ s.head? = some '}')) :
    bracesLength? n (c :: s) = bracesLength? (n + 1) s := by
  rw [bracesLength?]
  rintro t rfl rfl
  exact h ⟨rfl, rfl⟩

/-- A text without closing braces that does not end in one of them is passed over. -/
theorem bracesLength?_append {s : Text} (hs : ¬ ['}', '}'] <:+: s) (hend : s.getLast? ≠ some '}')
    (n : Nat) (t : Text) :
    bracesLength? n (s ++ '}' :: '}' :: t) = some (n + s.length + 2) := by
  induction s generalizing n with
  | nil => rfl
  | cons c s ih =>
    -- Two braces in a row would be in the text, or one of them would be its end.
    have hc : ¬ (c = '}' ∧ (s ++ '}' :: '}' :: t).head? = some '}') := by
      rintro ⟨rfl, hhead⟩
      cases s with
      | nil => exact hend rfl
      | cons d s =>
        obtain rfl : d = '}' := by simpa using hhead
        exact hs ⟨[], s, rfl⟩
    have hs' : ¬ ['}', '}'] <:+: s := fun h => hs (h.trans (List.suffix_cons c s).isInfix)
    have hend' : s.getLast? ≠ some '}' := by
      cases s with
      | nil => simp
      | cons d s => simpa using hend
    rw [List.cons_append, bracesLength?_cons hc, ih hs' hend', List.length_cons]
    congr 1
    omega

/-- The first character of a text with braces in it does not depend on what is behind them. -/
theorem head?_append_braces (w t : Text) :
    (w ++ '}' :: '}' :: t).head? = (w ++ ['}']).head? := by
  cases w <;> rfl

/-- A search that counts from `n` finds `m` at closing braces, whatever stands behind these. -/
def FoundIn (search : Text → Option Nat) (n m : Nat) (s : Text) : Prop :=
  ∃ w r, s = w ++ '}' :: '}' :: r ∧ m = n + w.length + 2 ∧
    ∀ t, search (w ++ '}' :: '}' :: t) = some m

/-- What is found is not before the start. -/
theorem FoundIn.le {search : Text → Option Nat} {n m : Nat} {s : Text}
    (h : FoundIn search n m s) : n ≤ m := by
  obtain ⟨w, r, -, rfl, -⟩ := h
  omega

/-- A search that counts a character and then goes on as another one. -/
theorem FoundIn.cons {search next : Text → Option Nat} {n m : Nat} {c : Char} {s : Text}
    (h : FoundIn next (n + 1) m s)
    (hstep : ∀ w r t, s = w ++ '}' :: '}' :: r →
      search (c :: (w ++ '}' :: '}' :: t)) = next (w ++ '}' :: '}' :: t)) :
    FoundIn search n m (c :: s) := by
  obtain ⟨w, r, hs, rfl, ht⟩ := h
  refine ⟨c :: w, r, by rw [hs]; rfl, by simp only [List.length_cons]; omega, fun t => ?_⟩
  rw [List.cons_append, hstep w r t hs, ht]

/-- What the search for closing braces finds depends on nothing behind them. -/
theorem bracesLength?_eq_some {n m : Nat} {s : Text} (h : bracesLength? n s = some m) :
    FoundIn (bracesLength? n) n m s := by
  fun_induction bracesLength? n s with
  | case1 => cases h
  | case2 n r =>
    cases h
    exact ⟨[], r, rfl, rfl, fun t => rfl⟩
  | case3 n c s hc ih =>
    refine (ih h).cons fun w r t hs => bracesLength?_cons ?_
    rintro ⟨rfl, hhead⟩
    rw [head?_append_braces, ← head?_append_braces w r, ← hs] at hhead
    obtain ⟨s', rfl⟩ := List.head?_eq_some_iff.1 hhead
    exact hc s' rfl rfl

/-! ## The end of a token -/

variable {isVariable : Bool} {depth n m : Nat} {quote : Option Char}

/-- The mark of a default literal begins with a bar. -/
theorem defaultMark_eq : defaultMark = '|' :: "default=".toList := rfl

/-- A backslash takes the next character with it. -/
theorem closeLength?_escape (c : Char) (s : Text) :
    closeLength? isVariable depth quote n ('\\' :: c :: s)
      = closeLength? isVariable depth quote (n + 2) s := by
  rw [closeLength?]

/-- Inside of quotes only the quote counts. -/
theorem closeLength?_quoted {q c : Char} {s : Text} (hc : c ≠ '\\') :
    closeLength? isVariable depth (some q) n (c :: s)
      = closeLength? isVariable depth (if c = q then none else some q) (n + 1) s := by
  rw [closeLength?]
  · exact fun h _ => hc h
  · exact fun _ _ h => absurd h hc

/-- Outside of quotes, and not at the mark of a default literal, a character closes the token,
changes the depth, opens a quote or is counted. -/
theorem closeLength?_outside {c : Char} {s : Text} (hesc : c ≠ '\\')
    (hmark : isVariable = true → depth = 0 → Text.dropMark? defaultMark (c :: s) = none) :
    closeLength? isVariable depth none n (c :: s) =
      if c = '}' ∧ s.head? = some '}' then some (n + 2)
      else if isVariable = true ∧ c = '(' then closeLength? isVariable (depth + 1) none (n + 1) s
      else if isVariable = true ∧ c = ')' then closeLength? isVariable (depth - 1) none (n + 1) s
      else if isVariable = true ∧ (c = '"' ∨ c = '\'') ∧ 0 < depth then
        closeLength? isVariable depth (some c) (n + 1) s
      else closeLength? isVariable depth none (n + 1) s := by
  rw [closeLength?]
  · cases isVariable with
    | false => simp
    | true =>
      by_cases hdepth : depth = 0
      · simp [hdepth, hmark rfl hdepth]
      · simp [hdepth]
  · exact fun h _ => hesc h
  · exact fun _ _ h => absurd h hesc

/-- Outside of quotes, closing braces close. -/
theorem closeLength?_close (s : Text) :
    closeLength? isVariable depth none n ('}' :: '}' :: s) = some (n + 2) := by
  rw [closeLength?_outside (by decide) fun _ _ => rfl]
  simp

/-- In a token that is no variable token, only backslashes and closing braces have a meaning. -/
theorem closeLength?_bare {c : Char} {s : Text} (hesc : c ≠ '\\')
    (hclose : ¬ (c = '}' ∧ s.head? = some '}')) :
    closeLength? false depth none n (c :: s) = closeLength? false depth none (n + 1) s := by
  have hmark : false = true → depth = 0 → Text.dropMark? defaultMark (c :: s) = none := nofun
  rw [closeLength?_outside hesc hmark, if_neg hclose]
  simp

/-- Outside of quotes, a character without a meaning is counted. -/
theorem closeLength?_plain {c : Char} {s : Text} (hesc : c ≠ '\\')
    (hclose : ¬ (c = '}' ∧ s.head? = some '}')) (hleft : c ≠ '(') (hright : c ≠ ')')
    (hquote : ¬ ((c = '"' ∨ c = '\'') ∧ 0 < depth))
    (hmark : depth = 0 → Text.dropMark? defaultMark (c :: s) = none) :
    closeLength? true depth none n (c :: s) = closeLength? true depth none (n + 1) s := by
  rw [closeLength?_outside hesc fun _ => hmark, if_neg hclose, if_neg fun h => hleft h.2,
    if_neg fun h => hright h.2, if_neg fun h => hquote h.2]

/-- Outside of quotes, a parenthesis opens. -/
theorem closeLength?_left (s : Text) :
    closeLength? true depth none n ('(' :: s) = closeLength? true (depth + 1) none (n + 1) s := by
  rw [closeLength?_outside (by decide) fun _ _ => rfl]
  simp

/-- Outside of quotes, a parenthesis closes. -/
theorem closeLength?_right (s : Text) :
    closeLength? true depth none n (')' :: s) = closeLength? true (depth - 1) none (n + 1) s := by
  rw [closeLength?_outside (by decide) fun _ _ => rfl]
  simp

/-- Inside of parentheses, a quote opens. -/
theorem closeLength?_openQuote {q : Char} (hq : q = '"' ∨ q = '\'') (hdepth : 0 < depth)
    (s : Text) :
    closeLength? true depth none n (q :: s) = closeLength? true depth (some q) (n + 1) s := by
  rcases hq with rfl | rfl <;> rw [closeLength?_outside (by decide) fun _ _ => rfl] <;>
    simp [hdepth]

/-- Outside of parentheses, the mark of a default literal leaves only the search for braces. -/
theorem closeLength?_default (s : Text) :
    closeLength? true 0 none n (defaultMark ++ s)
      = bracesLength? (n + defaultMark.length) s := by
  have hmark : Text.dropMark? defaultMark (defaultMark ++ s) = some s :=
    Text.dropMark?_eq_some_iff.2 rfl
  have hcons : defaultMark ++ s = '|' :: ("default=".toList ++ s) := rfl
  rw [hcons] at hmark ⊢
  rw [closeLength?, hmark]
  · simp
  · simp
  · simp

/-- Whether a mark without braces begins a text is decided before the first closing brace. -/
theorem dropMark?_eq_none_of_close {mark w r : Text} (hmark : '}' ∉ mark)
    (h : Text.dropMark? mark (w ++ '}' :: r) = none) (t : Text) :
    Text.dropMark? mark (w ++ '}' :: t) = none := by
  by_contra hsome
  obtain ⟨rest, hrest⟩ := Option.ne_none_iff_exists'.1 hsome
  have hsplit := Text.dropMark?_eq_some_iff.1 hrest
  -- A mark that went beyond `w` would have the brace in it.
  obtain ⟨u, rfl⟩ : ∃ u, w = mark ++ u := by
    rcases List.append_eq_append_iff.1 hsplit with ⟨u, hu, hcons⟩ | ⟨u, hu, -⟩
    · cases u with
      | nil => exact ⟨[], by simpa using hu.symm⟩
      | cons c u =>
        obtain ⟨rfl, -⟩ := List.cons.inj hcons
        exact absurd (by simp [hu]) hmark
    · exact ⟨u, hu⟩
  have : Text.dropMark? mark (mark ++ u ++ '}' :: r) = some (u ++ '}' :: r) :=
    Text.dropMark?_eq_some_iff.2 (List.append_assoc ..)
  rw [this] at h
  cases h

/-- A backslash at the end and one before a character are the cases in which the search comes to a
backslash. -/
theorem ne_backslash {c : Char} {s : Text} (hnil : c = '\\' → s = [] → False)
    (hcons : ∀ d s', c = '\\' → s = d :: s' → False) : c ≠ '\\' := by
  intro hc
  cases s with
  | nil => exact hnil hc rfl
  | cons d s => exact hcons d s hc rfl

/-- What the search for the end of a token finds depends on nothing behind the braces. -/
theorem closeLength?_eq_some {s : Text} (h : closeLength? isVariable depth quote n s = some m) :
    FoundIn (closeLength? isVariable depth quote n) n m s := by
  fun_induction closeLength? isVariable depth quote n s with
  | case1 => cases h
  | case2 => cases h
  | case3 depth quote n c s ih =>
    obtain ⟨w, r, rfl, rfl, ht⟩ := ih h
    refine ⟨'\\' :: c :: w, r, rfl, by simp only [List.length_cons]; omega, fun t => ?_⟩
    rw [List.cons_append, List.cons_append, closeLength?_escape, ht]
  | case4 depth n c s h1 h2 q ih =>
    exact (ih h).cons fun w r t _ => closeLength?_quoted (ne_backslash h1 h2)
  | case5 depth n c s h1 h2 hclose =>
    -- These are the braces that close, and nothing is between them and the start.
    obtain ⟨rfl, hhead⟩ := hclose
    obtain ⟨r, rfl⟩ := List.head?_eq_some_iff.1 hhead
    cases h
    exact ⟨[], r, rfl, rfl, closeLength?_close⟩
  | case6 depth n c s h1 h2 hclose hv ih =>
    cases hv
    refine (ih h).cons fun w r t hs => closeLength?_bare (ne_backslash h1 h2) ?_
    rwa [head?_append_braces, ← head?_append_braces w r, ← hs]
  | case7 depth n s hv h1 h2 hclose ih =>
    cases eq_true_of_ne_false hv
    exact (ih h).cons fun w r t _ => closeLength?_left _
  | case8 depth n s hv h1 h2 hclose _ ih =>
    cases eq_true_of_ne_false hv
    exact (ih h).cons fun w r t _ => closeLength?_right _
  | case9 depth n c s h1 h2 hclose hv hl hr hq ih =>
    cases eq_true_of_ne_false hv
    exact (ih h).cons fun w r t _ => closeLength?_openQuote hq.1 hq.2 _
  | case10 n c s h1 h2 hclose hv hl hr literal hmark hq =>
    -- Behind the mark, the search for braces takes over.
    cases eq_true_of_ne_false hv
    obtain ⟨w, r, rfl, rfl, ht⟩ := bracesLength?_eq_some h
    rw [Text.dropMark?_eq_some_iff.1 hmark]
    refine ⟨defaultMark ++ w, r, by simp, by simp; omega, fun t => ?_⟩
    rw [List.append_assoc, closeLength?_default, ht]
  | case11 n c s h1 h2 hclose hv hl hr hmark hq ih =>
    cases eq_true_of_ne_false hv
    have hesc := ne_backslash h1 h2
    refine (ih h).cons fun w r t hs => closeLength?_plain hesc ?_ hl hr hq fun _ => ?_
    · rwa [head?_append_braces, ← head?_append_braces w r, ← hs]
    · subst hs
      exact dropMark?_eq_none_of_close (w := c :: w) (by decide) hmark _
  | case12 depth n c s h1 h2 hclose hv hl hr hq hdepth ih =>
    cases eq_true_of_ne_false hv
    refine (ih h).cons fun w r t hs => closeLength?_plain (ne_backslash h1 h2) ?_ hl hr hq
      fun h0 => absurd h0 hdepth
    rwa [head?_append_braces, ← head?_append_braces w r, ← hs]

/-! ## Bodies that close -/

/-- The token with a given text between its braces. -/
def braced (inner : Text) : Text :=
  '{' :: '{' :: (inner ++ ['}', '}'])

/-- The braces behind the text are the ones that close it, whatever follows. -/
def Closes (inner : Text) : Prop :=
  ∀ t, bodyLength? (inner ++ '}' :: '}' :: t) = some (inner.length + 2)

/-- What is found to be the end of a token is the end of a body that closes. -/
theorem closes_of_bodyLength? {body : Text} (h : bodyLength? body = some n) :
    ∃ inner after, body = inner ++ '}' :: '}' :: after ∧ n = inner.length + 2 ∧ Closes inner := by
  obtain ⟨inner, after, rfl, hn, ht⟩ := closeLength?_eq_some h
  rw [Nat.zero_add] at hn
  refine ⟨inner, after, rfl, hn, fun t => ?_⟩
  rw [← hn, ← ht t, bodyLength?, head?_append_braces, ← head?_append_braces inner after]

/-- Braces that are found behind a text close it, whatever follows. -/
theorem closes_of_found {inner : Text}
    (h : bodyLength? (inner ++ ['}', '}']) = some (inner.length + 2)) : Closes inner := by
  obtain ⟨inner', after, heq, hlength, hinner'⟩ := closes_of_bodyLength? h
  have hinner : inner = inner' := List.append_inj_left heq (by omega)
  rw [hinner]
  exact hinner'

/-! ## Pieces -/

/-- Pieces that are done stand before the others. -/
theorem piecesFrom_append (done earlier : List Piece) (plain s : Text) :
    piecesFrom (done ++ earlier) plain s = earlier.reverse ++ piecesFrom done plain s := by
  fun_induction piecesFrom done plain s with
  | case1 => simp [piecesFrom]
  | case2 done plain body n hn ih => rw [piecesFrom, hn, ← ih]; rfl
  | case3 done plain body hn ih => rw [piecesFrom, hn, ← ih]
  | case4 done plain c s hc ih => rw [piecesFrom.eq_3 _ _ _ _ hc, ← ih]

/-- A token is cut off behind its closing braces. -/
theorem take_braced (inner after : Text) :
    '{' :: '{' :: (inner ++ '}' :: '}' :: after).take (inner.length + 2) = braced inner := by
  rw [List.take_length_add_append]
  rfl

/-- A token is a piece, and the pieces of what follows come behind it. -/
theorem piecesFrom_of_closes {inner : Text} (h : Closes inner) (plain after : Text) :
    piecesFrom [] plain ('{' :: '{' :: (inner ++ '}' :: '}' :: after))
      = .plain plain.reverse :: .token (braced inner) :: pieces after := by
  have hdrop : (inner ++ '}' :: '}' :: after).drop (inner.length + 2) = after := by
    rw [List.drop_length_add_append]
    rfl
  rw [piecesFrom, h after]
  simp only
  rw [take_braced, hdrop, ← List.nil_append [_, _], piecesFrom_append]
  rfl

/-- Text without opening braces is plain, unless its end and what follows make up such braces. -/
theorem piecesFrom_of_plain {before : Text} (hopen : ¬ ['{', '{'] <:+: before)
    (hend : before.getLast? ≠ some '{') (plain s : Text) :
    piecesFrom [] plain (before ++ s) = piecesFrom [] (before.reverse ++ plain) s := by
  induction before generalizing plain with
  | nil => rfl
  | cons c before ih =>
    -- Two braces in a row would be in the plain text, or one of them would be its end.
    have hc : ∀ body, c = '{' → before ++ s = '{' :: body → False := by
      rintro body rfl hbody
      cases before with
      | nil => exact hend rfl
      | cons d before =>
        obtain rfl : d = '{' := (List.cons.inj hbody).1
        exact hopen ⟨[], before, rfl⟩
    have hopen' : ¬ ['{', '{'] <:+: before :=
      fun h => hopen (h.trans (List.suffix_cons c before).isInfix)
    have hend' : before.getLast? ≠ some '{' := by
      cases before with
      | nil => simp
      | cons d before => simpa using hend
    rw [List.cons_append, piecesFrom.eq_3 _ _ _ _ hc, ih hopen' hend']
    simp

/-- The first token of a text, behind plain text. -/
theorem pieces_eq_cons_of_closes {before inner : Text} (hopen : ¬ ['{', '{'] <:+: before)
    (hend : before.getLast? ≠ some '{') (h : Closes inner) (after : Text) :
    pieces (before ++ '{' :: '{' :: (inner ++ '}' :: '}' :: after))
      = .plain before :: .token (braced inner) :: pieces after := by
  rw [pieces, piecesFrom_of_plain hopen hend, piecesFrom_of_closes h]
  simp

/-- A token that stands alone is one token. -/
theorem pieces_of_closes {inner : Text} (h : Closes inner) :
    pieces (braced inner) = [.plain [], .token (braced inner), .plain []] := by
  have hnil : pieces [] = [.plain []] := by simp [pieces, piecesFrom, Piece.ofReverse]
  have hpieces := piecesFrom_of_closes h [] []
  rwa [hnil] at hpieces

/-- A cut into pieces yields tokens that close, behind the pieces that are done. -/
theorem closes_of_mem_piecesFrom {done : List Piece} {plain s raw : Text}
    (h : .token raw ∈ piecesFrom done plain s) :
    .token raw ∈ done ∨ ∃ inner, raw = braced inner ∧ Closes inner := by
  fun_induction piecesFrom done plain s with
  | case1 done plain => exact .inl (by simpa [Piece.ofReverse] using h)
  | case2 done plain body n hn ih =>
    obtain ⟨inner, after, rfl, rfl, hinner⟩ := closes_of_bodyLength? hn
    rcases ih h with hraw | hraw
    · rw [take_braced] at hraw
      rcases List.mem_cons.1 hraw with hraw | hraw
      · exact .inr ⟨inner, Piece.token.inj hraw, hinner⟩
      · exact .inl (by simpa [Piece.ofReverse] using hraw)
    · exact .inr hraw
  | case3 done plain body hn ih => exact ih h
  | case4 done plain c s hc ih => exact ih h

/-- The tokens of a text are bodies that close, in braces. -/
theorem closes_of_mem_pieces {s raw : Text} (h : .token raw ∈ pieces s) :
    ∃ inner, raw = braced inner ∧ Closes inner :=
  (closes_of_mem_piecesFrom h).resolve_left (by simp)

end Stencil.Token
