import Mathlib.Tactic.SplitIfs
import Stencil.Proofs.Template.Scan

/-!
# Opening braces that stay plain

Opening braces begin a token unless nothing closes them. In a variable token, quotes hide what they
enclose, so that braces may be there and still not close the token: quotes that are never closed
hide all that follows. `shown` says what is left to see of a body. In a text without backslashes,
`plain_opener_iff` says that opening braces outside of all tokens are exactly those that are not
inside of a token and behind which no closing braces are shown.
-/

namespace Stencil.Token

/-! ## What a body shows -/

/-- What the arguments of a variable show: each character outside of quotes, and `none` in the place
of quotes and what they enclose. A default literal is shown as it is. `depth` counts the open
parentheses, and `quote` is the quote that is open. -/
def shownFrom (depth : Nat) (quote : Option Char) : Text → List (Option Char)
  | [] => []
  | c :: s =>
    match quote with
    | some q => none :: shownFrom depth (if c = q then none else some q) s
    | none =>
      if c = '(' then some c :: shownFrom (depth + 1) none s
      else if c = ')' then some c :: shownFrom (depth - 1) none s
      else if (c = '"' ∨ c = '\'') ∧ 0 < depth then none :: shownFrom depth (some c) s
      else if depth = 0 ∧ defaultMark <+: c :: s then (c :: s).map some
      else some c :: shownFrom depth none s

/-- What a body without backslashes shows to the search for closing braces. Quotes mean something
only in variables. -/
def shown (body : Text) : List (Option Char) :=
  if body.head? = some '$' then shownFrom 0 none body else body.map some

/-- Every character of a text is shown. -/
theorem braces_infix_map_iff {s : Text} :
    [some '}', some '}'] <:+: s.map some ↔ ['}', '}'] <:+: s := by
  induction s with
  | nil => simp
  | cons c s ih => rw [List.map_cons, pair_infix_cons_iff, pair_infix_cons_iff, ih]; simp

variable {depth n : Nat} {quote : Option Char}

/-- Outside of quotes, a closing brace is shown, and nothing else is shown as one. -/
theorem head?_shownFrom (depth : Nat) (s : Text) :
    (shownFrom depth none s).head? = some (some '}') ↔ s.head? = some '}' := by
  cases s with
  | nil => simp [shownFrom]
  | cons c s =>
    simp only [shownFrom]
    split_ifs with hleft hright hquote hmark
    · simp
    · simp
    · obtain ⟨rfl | rfl, -⟩ := hquote <;> simp
    · simp
    · simp

/-- A parenthesis is shown, and what follows as it is shown inside of it. -/
theorem shownFrom_left (s : Text) :
    shownFrom depth none ('(' :: s) = some '(' :: shownFrom (depth + 1) none s := by
  simp [shownFrom]

/-- A parenthesis is shown, and what follows as it is shown outside of it. -/
theorem shownFrom_right (s : Text) :
    shownFrom depth none (')' :: s) = some ')' :: shownFrom (depth - 1) none s := by
  simp [shownFrom]

/-- Inside of parentheses, a quote is hidden, with what it encloses. -/
theorem shownFrom_open {q : Char} (hq : q = '"' ∨ q = '\'') (hdepth : 0 < depth) (s : Text) :
    shownFrom depth none (q :: s) = none :: shownFrom depth (some q) s := by
  rcases hq with rfl | rfl <;> simp [shownFrom, hdepth]

/-- A character without a meaning is shown. -/
theorem shownFrom_plain {c : Char} {s : Text} (hleft : c ≠ '(') (hright : c ≠ ')')
    (hquote : ¬ ((c = '"' ∨ c = '\'') ∧ 0 < depth))
    (hmark : depth = 0 → ¬ defaultMark <+: c :: s) :
    shownFrom depth none (c :: s) = some c :: shownFrom depth none s := by
  rw [shownFrom, if_neg hleft, if_neg hright, if_neg hquote, if_neg fun h => hmark h.1 h.2]

/-- Outside of parentheses, a default literal is shown with its mark. -/
theorem shownFrom_default (literal : Text) :
    shownFrom 0 none (defaultMark ++ literal) = (defaultMark ++ literal).map some := by
  have hcons : defaultMark ++ literal = '|' :: ("default=".toList ++ literal) := rfl
  have hmark : defaultMark <+: '|' :: ("default=".toList ++ literal) := ⟨literal, rfl⟩
  rw [hcons, shownFrom, if_neg (by decide), if_neg (by decide), if_neg (by simp),
    if_pos ⟨rfl, hmark⟩]

/-! ## Where nothing closes -/

/-- The search for closing braces finds none exactly if there are none. -/
theorem bracesLength?_eq_none_iff {s : Text} :
    bracesLength? n s = none ↔ ¬ ['}', '}'] <:+: s := by
  induction s generalizing n with
  | nil => simp [bracesLength?]
  | cons c s ih =>
    rw [pair_infix_cons_iff]
    by_cases hc : c = '}' ∧ s.head? = some '}'
    · obtain ⟨rfl, hhead⟩ := hc
      obtain ⟨s, rfl⟩ := List.head?_eq_some_iff.1 hhead
      simp [bracesLength?]
    · rw [bracesLength?_cons hc, ih]
      simp [hc]

/-- Without backslashes, closing braces close every token that is no variable token. -/
theorem closeLength?_bare_eq_none_iff {s : Text} (hesc : '\\' ∉ s) :
    closeLength? false depth none n s = none ↔ ¬ ['}', '}'] <:+: s := by
  induction s generalizing n with
  | nil => simp [closeLength?]
  | cons c s ih =>
    obtain ⟨hc, hs⟩ := not_or.1 (List.mem_cons.not.1 hesc)
    rw [pair_infix_cons_iff]
    by_cases hclose : c = '}' ∧ s.head? = some '}'
    · obtain ⟨rfl, hhead⟩ := hclose
      obtain ⟨s, rfl⟩ := List.head?_eq_some_iff.1 hhead
      simp [closeLength?_close]
    · rw [closeLength?_bare (Ne.symm hc) hclose, ih hs]
      simp [hclose]

/-- Without backslashes, nothing closes a variable token exactly if no closing braces are shown. -/
theorem closeLength?_eq_none_iff {s : Text} (hesc : '\\' ∉ s) :
    closeLength? true depth quote n s = none ↔
      ¬ [some '}', some '}'] <:+: shownFrom depth quote s := by
  induction s generalizing depth quote n with
  | nil => simp [closeLength?, shownFrom]
  | cons c s ih =>
    obtain ⟨hc, hs⟩ := not_or.1 (List.mem_cons.not.1 hesc)
    cases quote with
    | some q =>
      rw [closeLength?_quoted (Ne.symm hc), ih hs, shownFrom, pair_infix_cons_iff]
      simp
    | none =>
      by_cases hclose : c = '}' ∧ s.head? = some '}'
      · obtain ⟨rfl, hhead⟩ := hclose
        have hshown := (head?_shownFrom depth s).2 hhead
        obtain ⟨s, rfl⟩ := List.head?_eq_some_iff.1 hhead
        have hmark : depth = 0 → ¬ defaultMark <+: '}' :: '}' :: s := by simp [defaultMark_eq]
        rw [closeLength?_close, shownFrom_plain (by decide) (by decide) (by simp) hmark,
          pair_infix_cons_iff]
        simp [hshown]
      by_cases hleft : c = '('
      · subst hleft
        rw [closeLength?_left, ih hs, shownFrom_left, pair_infix_cons_iff]
        simp
      by_cases hright : c = ')'
      · subst hright
        rw [closeLength?_right, ih hs, shownFrom_right, pair_infix_cons_iff]
        simp
      by_cases hquote : (c = '"' ∨ c = '\'') ∧ 0 < depth
      · rw [closeLength?_openQuote hquote.1 hquote.2, ih hs, shownFrom_open hquote.1 hquote.2,
          pair_infix_cons_iff]
        simp
      by_cases hmark : depth = 0 ∧ defaultMark <+: c :: s
      · obtain ⟨rfl, literal, hliteral⟩ := hmark
        rw [← hliteral, closeLength?_default, bracesLength?_eq_none_iff, shownFrom_default,
          braces_infix_map_iff]
        simp [defaultMark_eq, pair_infix_cons_iff]
      · have hnone : depth = 0 → Text.dropMark? defaultMark (c :: s) = none := fun h0 =>
          Text.dropMark?_eq_none_iff.2 fun h => hmark ⟨h0, h⟩
        rw [closeLength?_plain (Ne.symm hc) hclose hleft hright hquote hnone, ih hs,
          shownFrom_plain hleft hright hquote fun h0 h => hmark ⟨h0, h⟩, pair_infix_cons_iff,
          head?_shownFrom]
        simp [hclose]

/-- Without backslashes, a body is not closed exactly if it shows no closing braces. -/
theorem bodyLength?_eq_none_iff {body : Text} (hesc : '\\' ∉ body) :
    bodyLength? body = none ↔ ¬ [some '}', some '}'] <:+: shown body := by
  unfold bodyLength? shown
  by_cases hdollar : body.head? = some '$'
  · rw [if_pos hdollar, decide_eq_true hdollar]
    exact closeLength?_eq_none_iff hesc
  · rw [if_neg hdollar, decide_eq_false hdollar, braces_infix_map_iff]
    exact closeLength?_bare_eq_none_iff hesc

/-! ## Openers -/

/-- In a text that begins with two texts, one of them begins with the other one. -/
theorem append_eq_append_cases {u v w x : Text} (h : u ++ v = w ++ x) :
    (∃ a, w = u ++ a ∧ v = a ++ x) ∨ ∃ c a, u = w ++ c :: a := by
  rcases List.append_eq_append_iff.1 h with ⟨a, hw, hv⟩ | ⟨a, hu, hx⟩
  · exact .inl ⟨a, hw, hv⟩
  · cases a with
    | nil => exact .inl ⟨[], by simpa using hu.symm, by simpa using hx.symm⟩
    | cons c a => exact .inr ⟨c, a, hu⟩

/-- Where nothing closes opening braces, nothing closes the ones that overlap them. -/
theorem bodyLength?_eq_none_of_brace {body : Text} (hesc : '\\' ∉ body)
    (h : bodyLength? ('{' :: body) = none) : bodyLength? body = none := by
  have hesc' : '\\' ∉ '{' :: body := by simp [hesc]
  rw [bodyLength?_eq_none_iff hesc'] at h
  cases hbody : bodyLength? body with
  | none => rfl
  | some n =>
    -- What begins with a brace shows all braces, and so those that would close the body.
    obtain ⟨inner, after, rfl, -, -⟩ := closes_of_bodyLength? hbody
    have hshown : shown ('{' :: (inner ++ '}' :: '}' :: after))
        = ('{' :: (inner ++ '}' :: '}' :: after)).map some := if_neg (by simp)
    rw [hshown, braces_infix_map_iff] at h
    exact absurd ⟨'{' :: inner, after, by simp⟩ h

/-- Opening braces that are not inside of a token begin one exactly if something closes them. -/
theorem starts_token_iff {s : Text} (hesc : '\\' ∉ s) {before body : Text}
    (hs : s = before ++ '{' :: '{' :: body) {pos : Nat}
    (hout : ∀ span ∈ scanFrom pos s,
      ¬ (span.start < pos + Text.byteLength before ∧ pos + Text.byteLength before < span.stop)) :
    (∃ span ∈ scanFrom pos s, span.start = pos + Text.byteLength before) ↔
      bodyLength? body ≠ none := by
  induction s using scan_induction generalizing pos before with
  | nil => simp at hs
  | token inner after hinner ih =>
    rw [scanFrom_token hinner] at hout ⊢
    cases before with
    | nil =>
      -- This is the token itself.
      obtain rfl : inner ++ '}' :: '}' :: after = body := (List.cons.inj (List.cons.inj hs).2).2
      rw [hinner after]
      simp
    | cons d before =>
      have hraw : braced inner ++ after = d :: before ++ '{' :: '{' :: body := by
        rw [← hs]
        simp [braced]
      rcases append_eq_append_cases hraw with ⟨a, hbefore, rfl⟩ | ⟨c, a, hinside⟩
      · -- The opening braces are behind the token.
        have hlength := congrArg Text.byteLength hbefore
        rw [Text.byteLength_append] at hlength
        rw [hlength, ← Nat.add_assoc] at hout ⊢
        have hrest := ih (fun h => hesc (by simp [h])) rfl
          fun span hspan => hout span (List.mem_cons_of_mem _ hspan)
        rw [← hrest]
        have hne : pos ≠ pos + Text.byteLength (braced inner) + Text.byteLength a := by
          rw [byteLength_braced]
          omega
        simp [hne]
      · -- They are inside of it, and this has been ruled out.
        have hlength := congrArg Text.byteLength hinside
        rw [Text.byteLength_append] at hlength
        have hd : 0 < Text.byteLength (d :: before) := Nat.add_pos_left d.utf8Size_pos _
        have hc : 0 < Text.byteLength (c :: a) := Nat.add_pos_left c.utf8Size_pos _
        refine absurd ⟨Nat.lt_add_of_pos_right hd, ?_⟩ (hout _ List.mem_cons_self)
        simp only
        omega
  | unclosed body' hbody ih =>
    obtain ⟨-, hesc'⟩ : '\\' ≠ '{' ∧ '\\' ∉ body' := by simpa using hesc
    rw [scanFrom_unclosed hbody] at hout ⊢
    have hlate : ∀ k < 2, ¬ ∃ span ∈ scanFrom (pos + 2) body', span.start = pos + k := by
      rintro k hk ⟨span, hspan, hstart⟩
      have := (bounds_of_mem_scanFrom hspan).1
      omega
    rcases before with _ | ⟨d, _ | ⟨e, before⟩⟩
    · obtain rfl : body' = body := (List.cons.inj (List.cons.inj hs).2).2
      exact iff_of_false (hlate 0 (by decide)) (not_not.2 hbody)
    · -- The scan passes over the first brace here together with the one before it.
      obtain ⟨rfl, hbrace⟩ := List.cons.inj hs
      obtain rfl : body' = '{' :: body := (List.cons.inj hbrace).2
      have hnone := bodyLength?_eq_none_of_brace (fun h => hesc' (List.mem_cons_of_mem _ h)) hbody
      exact iff_of_false (hlate 1 (by decide)) (not_not.2 hnone)
    · obtain ⟨rfl, hbrace⟩ := List.cons.inj hs
      obtain ⟨rfl, hrest⟩ := List.cons.inj hbrace
      have hpos : pos + Text.byteLength ('{' :: '{' :: before)
          = pos + 2 + Text.byteLength before := by
        have hsize : '{'.utf8Size = 1 := rfl
        rw [Text.byteLength_cons, Text.byteLength_cons, hsize]
        omega
      rw [hpos] at hout ⊢
      exact ih hesc' hrest hout
  | plain c s hplain ih =>
    cases before with
    | nil =>
      obtain ⟨rfl, rfl⟩ := List.cons.inj hs
      exact absurd ⟨rfl, rfl⟩ hplain
    | cons d before =>
      obtain ⟨rfl, hrest⟩ := List.cons.inj hs
      rw [scanFrom_plain hplain] at hout ⊢
      rw [Text.byteLength_cons, ← Nat.add_assoc] at hout ⊢
      exact ih (fun h => hesc (List.mem_cons_of_mem _ h)) hrest hout

/-- Without quotes, everything is shown. -/
theorem shownFrom_of_no_quotes {s : Text} (h : ∀ c ∈ s, ¬ (c = '"' ∨ c = '\'')) :
    shownFrom depth none s = s.map some := by
  induction s generalizing depth with
  | nil => rfl
  | cons c s ih =>
    obtain ⟨hc, hs⟩ := List.forall_mem_cons.1 h
    simp only [shownFrom]
    split_ifs with hleft hright hquote hmark
    · rw [ih hs, List.map_cons]
    · rw [ih hs, List.map_cons]
    · exact absurd hquote.1 hc
    · rfl
    · rw [ih hs, List.map_cons]

/-- In a text without backslashes, opening braces are outside of all tokens exactly if they are not
inside of one that begins before them, and no closing braces are shown behind them. If they are not
those of a variable, or there are no quotes, this means that there are no closing braces. -/
theorem plain_opener_iff {before body : Text} (hesc : '\\' ∉ before ++ '{' :: '{' :: body) :
    let pos := Text.byteLength before
    let spans := scan (before ++ '{' :: '{' :: body)
    ((∀ span ∈ spans, ¬ (span.start ≤ pos ∧ pos < span.stop)) ↔
      (∀ span ∈ spans, ¬ (span.start < pos ∧ pos < span.stop)) ∧
        ¬ [some '}', some '}'] <:+: shown body) ∧
    (body.head? ≠ some '$' ∨ (∀ c ∈ body, ¬ (c = '"' ∨ c = '\'')) →
      ([some '}', some '}'] <:+: shown body ↔ ['}', '}'] <:+: body)) := by
  intro pos spans
  have hbody : '\\' ∉ body := fun h => hesc (by simp [h])
  have hstarts : (∀ span ∈ spans, ¬ (span.start < pos ∧ pos < span.stop)) →
      ((∃ span ∈ spans, span.start = pos) ↔ [some '}', some '}'] <:+: shown body) := by
    intro hout
    have hzero : 0 + Text.byteLength before = pos := Nat.zero_add _
    have hiff : (∃ span ∈ spans, span.start = 0 + Text.byteLength before) ↔
        bodyLength? body ≠ none := starts_token_iff hesc rfl (hzero ▸ hout)
    rwa [hzero, ne_eq, bodyLength?_eq_none_iff hbody, not_not] at hiff
  refine ⟨⟨fun hplain => ?_, ?_⟩, ?_⟩
  · have hout : ∀ span ∈ spans, ¬ (span.start < pos ∧ pos < span.stop) :=
      fun span hspan h => hplain span hspan ⟨Nat.le_of_lt h.1, h.2⟩
    refine ⟨hout, fun hshown => ?_⟩
    obtain ⟨span, hspan, hstart⟩ := (hstarts hout).2 hshown
    -- No span is empty, so that it holds the position at which it starts.
    have hlength := (bounds_of_mem_scanFrom (show span ∈ scanFrom 0 _ from hspan)).2
    exact hplain span hspan ⟨Nat.le_of_eq hstart, by omega⟩
  · rintro ⟨hout, hshown⟩ span hspan ⟨hle, hlt⟩
    rcases Nat.lt_or_eq_of_le hle with hstart | hstart
    · exact hout span hspan ⟨hstart, hlt⟩
    · exact hshown ((hstarts hout).1 ⟨span, hspan, hstart⟩)
  · intro h
    have hall : shown body = body.map some := by
      unfold shown
      split_ifs with hdollar
      · exact shownFrom_of_no_quotes (h.resolve_left (not_not.2 hdollar))
      · rfl
    rw [hall, braces_infix_map_iff]

/-- The body of a variable with closing braces in quotes, and a quote that is never closed. -/
def hiddenBody : Text :=
  "$x:replace('\x7d\x7d', \"\x7d\x7d \x7b\x7b$y\x7d\x7d".toList

/-- All closing braces of `hiddenBody` are hidden, although one of them closes another token. -/
theorem plain_opener_hidden :
    '\\' ∉ ['é', ' '] ++ '{' :: '{' :: hiddenBody ∧
      ∀ span ∈ scan (['é', ' '] ++ '{' :: '{' :: hiddenBody),
        ¬ (span.start ≤ 3 ∧ 3 < span.stop) := by
  have hesc : '\\' ∉ ['é', ' '] ++ '{' :: '{' :: hiddenBody := by decide
  have hnone : bodyLength? hiddenBody = none := by decide +kernel
  have hscan : scan (['é', ' '] ++ '{' :: '{' :: hiddenBody) = scanFrom 5 hiddenBody := by
    have hscan : scan (['é', ' '] ++ '{' :: '{' :: hiddenBody)
        = scanFrom 0 (['é', ' '] ++ '{' :: '{' :: hiddenBody) := rfl
    have hsize : 0 + 'é'.utf8Size + ' '.utf8Size + 2 = 5 := by decide
    rw [hscan, List.cons_append, scanFrom_plain (by simp [IsPlain]), List.cons_append,
      scanFrom_plain (by simp [IsPlain]), List.nil_append, scanFrom_unclosed hnone, hsize]
  have hout : ∀ span ∈ scanFrom 5 hiddenBody, ¬ (span.start < 3 ∧ 3 < span.stop) := by
    intro span hspan hin
    have := (bounds_of_mem_scanFrom hspan).1
    omega
  have hlength : Text.byteLength ['é', ' '] = 3 := by decide
  have hiff := (plain_opener_iff hesc).1
  rw [hlength, hscan] at hiff
  rw [hscan]
  exact ⟨hesc, hiff.2 ⟨hout, by decide +kernel⟩⟩

/-- Closing braces do not always close: a quote that is never closed hides them, so that the
opening braces before it are plain, and what stands between is no malformed placeholder. -/
theorem not_closed_by_braces :
    ¬ ∀ before body : Text, '\\' ∉ before ++ '{' :: '{' :: body →
      (∀ span ∈ scan (before ++ '{' :: '{' :: body),
        ¬ (span.start ≤ Text.byteLength before ∧ Text.byteLength before < span.stop)) →
      ¬ ['}', '}'] <:+: body := by
  intro h
  have hnone : scan ('{' :: '{' :: "$x:suffix(\"abc)\x7d\x7d".toList) = [] := by
    have hscan : scan ('{' :: '{' :: "$x:suffix(\"abc)\x7d\x7d".toList)
        = scanFrom 0 ('{' :: '{' :: "$x:suffix(\"abc)\x7d\x7d".toList) := rfl
    rw [hscan, scanFrom_unclosed (by decide), scanFrom_of_not_mem (by decide)]
  refine h [] "$x:suffix(\"abc)\x7d\x7d".toList (by decide) ?_ (by decide +kernel)
  rw [List.nil_append, hnone]
  intro span hspan
  cases hspan

end Stencil.Token
