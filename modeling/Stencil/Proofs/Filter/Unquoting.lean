import Stencil.Proofs.Filter.Quoting
import Stencil.Proofs.Template.Acceptance
import Stencil.Proofs.Text.Split

/-!
# Which arguments are unquoted

An argument, or a part of one between commas, loses its quotes where it begins and ends with the
same quote. If it is one quoted literal, what comes out is its inside with the escapes resolved; but
the quote at its end may also belong to another literal than the one at its beginning.
`unquote_part_iff` says that this is the only case in which anything but a quoted literal is
unquoted: where the argument follows the grammar, a part becomes what it should exactly if it is not
`Torn`.

A third case has to be ruled out, namely a quote that is never closed, with an escaped quote at the
end. `openQuote` follows the quotes through a text in two ways: for the grammar a backslash outside
of quotes is a character like any other, and for the search for commas it takes the next character
with it as it does inside. Both ways take up the same characters at a time. A part before a comma is
closed in the second way (`mem_piecesFrom`), and the end of the last part is the end of an argument,
which is closed in the first way (`openQuote_argumentText`).
-/

namespace Stencil

/-- The character that an item stands for. -/
def Body.QuotedItem.char : QuotedItem → Char
  | plain c => c
  | escape c => c

namespace Argument

open Body (IsQuote QuotedItem Stretch argumentText)

/-! ## What unquoting should do -/

/-- What becomes of a text if quoted literals are unquoted and nothing else is: a literal becomes
its inside, where a backslash stands for the character behind it. -/
inductive Unquoted : Text → Text → Prop
  | literal {q : Char} {items : List QuotedItem} (h : (Stretch.quoted q items).Valid) :
    Unquoted (Stretch.quoted q items).text (items.map QuotedItem.char)
  | other {t : Text}
    (h : ∀ q items, (Stretch.quoted q items).Valid → t ≠ (Stretch.quoted q items).text) :
    Unquoted t t

/-- A quoted literal with more behind it that ends in the same quote. -/
def Torn (t : Text) : Prop :=
  ∃ q items s, (Stretch.quoted q items).Valid ∧ t = (Stretch.quoted q items).text ++ s ++ [q]

/-- A quote that is never closed, with an escaped quote at the end. -/
def Unclosed (t : Text) : Prop :=
  ∃ (q : Char) (items : List QuotedItem), IsQuote q ∧ (∀ i ∈ items, i.Valid q) ∧
    t = q :: (items.flatMap QuotedItem.text ++ ['\\', q])

variable {q : Char} {items : List QuotedItem}

/-- A character is no backslash where it is neither a backslash at the end nor one with a character
behind it. -/
theorem ne_escape_of_cases {c : Char} {s : Text} (hend : c = '\\' → s = [] → False)
    (hescape : ∀ d t, c = '\\' → s = d :: t → False) : c ≠ '\\' := by
  intro hc
  cases s with
  | nil => exact hend hc rfl
  | cons d t => exact hescape d t hc rfl

/-- A torn text is no literal. -/
theorem ne_text_of_torn {q' : Char} {items' : List QuotedItem} {s : Text}
    (h : (Stretch.quoted q items).Valid) (h' : (Stretch.quoted q' items').Valid) :
    (Stretch.quoted q items).text ≠ (Stretch.quoted q' items').text ++ s ++ [q'] := by
  intro heq
  rw [Stretch.text, Stretch.text, List.cons_append, List.cons_append, List.append_assoc,
    List.append_assoc, List.singleton_append] at heq
  obtain ⟨rfl, hrest⟩ := List.cons.inj heq
  obtain ⟨-, hnil⟩ := Body.items_unique h.1.ne_escape h.2 h'.2 hrest
  exact absurd hnil.symm (by simp)

/-- A backslash in a literal stands for the character behind it. -/
theorem unescape_items (h : ∀ i ∈ items, i.Valid q) :
    unescape (items.flatMap QuotedItem.text) = items.map QuotedItem.char := by
  induction items with
  | nil => rfl
  | cons i items ih =>
    obtain ⟨hi, hitems⟩ := List.forall_mem_cons.1 h
    rw [List.flatMap_cons, List.map_cons, ← ih hitems]
    cases i with
    | plain c => exact unescape_plain hi.2 _
    | escape c => exact unescape_escape c _

/-- Resolving backslashes makes no text longer. -/
theorem length_unescape_le (s : Text) : (unescape s).length ≤ s.length := by
  fun_induction unescape s with
  | case1 => exact Nat.le_refl _
  | case2 => exact Nat.zero_le _
  | case3 c s ih =>
    simp only [List.length_cons]
    omega
  | case4 c s _ _ ih =>
    simp only [List.length_cons]
    omega

/-- What stands behind a quote is a literal up to its end and something more, or the quote is never
closed. -/
theorem exists_items (q : Char) (s : Text) :
    ∃ items : List QuotedItem, (∀ i ∈ items, i.Valid q) ∧
      ((∃ rest, s = items.flatMap QuotedItem.text ++ q :: rest) ∨
        s = items.flatMap QuotedItem.text ∨ s = items.flatMap QuotedItem.text ++ ['\\']) := by
  fun_induction unescape s with
  | case1 => exact ⟨[], by simp, .inr (.inl rfl)⟩
  | case2 => exact ⟨[], by simp, .inr (.inr rfl)⟩
  | case3 c s ih =>
    obtain ⟨items, hitems, hs⟩ := ih
    refine ⟨.escape c :: items, List.forall_mem_cons.2 ⟨trivial, hitems⟩, ?_⟩
    rcases hs with ⟨rest, rfl⟩ | rfl | rfl
    · exact .inl ⟨rest, rfl⟩
    · exact .inr (.inl rfl)
    · exact .inr (.inr rfl)
  | case4 c s hlast hesc ih =>
    by_cases hc : c = q
    · exact ⟨[], by simp, .inl ⟨s, by rw [hc]; rfl⟩⟩
    · have hne : c ≠ '\\' := ne_escape_of_cases hlast hesc
      obtain ⟨items, hitems, hs⟩ := ih
      refine ⟨.plain c :: items, List.forall_mem_cons.2 ⟨⟨hc, hne⟩, hitems⟩, ?_⟩
      rcases hs with ⟨rest, rfl⟩ | rfl | rfl
      · exact .inl ⟨rest, rfl⟩
      · exact .inr (.inl rfl)
      · exact .inr (.inr rfl)

/-- A text that begins and ends with the same quote is a literal, torn, or not closed. -/
theorem literal_or_torn (hq : IsQuote q) (s : Text) :
    (∃ items, (Stretch.quoted q items).Valid ∧ q :: (s ++ [q]) = (Stretch.quoted q items).text) ∨
      Torn (q :: (s ++ [q])) ∨ Unclosed (q :: (s ++ [q])) := by
  -- The literal that the first quote opens ends with the text, before it, or not at all.
  obtain ⟨items, hitems, ⟨rest, hs⟩ | hs | hs⟩ := exists_items q (s ++ [q])
  · rcases List.eq_nil_or_concat rest with rfl | ⟨rest, c, rfl⟩
    · exact .inl ⟨items, ⟨hq, hitems⟩, by rw [hs]; rfl⟩
    · have hlast : s ++ [q] = items.flatMap QuotedItem.text ++ q :: rest ++ [c] := by simpa using hs
      obtain ⟨-, hc⟩ := List.append_inj' hlast rfl
      cases hc
      refine .inr (.inl ⟨q, items, rest, ⟨hq, hitems⟩, ?_⟩)
      rw [hlast, Stretch.text]
      simp
  · -- The last item ends in a quote, so that it is an escaped one.
    rcases List.eq_nil_or_concat items with rfl | ⟨items, i, rfl⟩
    · exact absurd hs (by simp)
    · rw [List.concat_eq_append] at hitems hs
      have hvalid : i.Valid q := hitems i (by simp)
      rw [List.flatMap_append, List.flatMap_singleton] at hs
      cases i with
      | plain c => exact absurd (List.cons.inj (List.append_inj' hs rfl).2).1.symm hvalid.1
      | escape c =>
        have hlast : s ++ [q] = items.flatMap QuotedItem.text ++ ['\\'] ++ [c] := by
          simpa [QuotedItem.text] using hs
        obtain ⟨-, hc⟩ := List.append_inj' hlast rfl
        cases hc
        refine .inr (.inr ⟨q, items, hq, fun i hi => hitems i (List.mem_append_left _ hi), ?_⟩)
        rw [hlast]
        simp
  · exact absurd (List.cons.inj (List.append_inj' hs rfl).2).1 hq.ne_escape

/-- A text in the same quotes on both sides is stripped of them. -/
theorem unquote_between (hq : IsQuote q) (s : Text) : unquote (q :: (s ++ [q])) = unescape s := by
  have hends : (q = '"' ∨ q = '\'') ∧ (s ++ [q]).getLast? = some q :=
    ⟨hq, List.getLast?_concat⟩
  rw [unquote, if_pos hends, List.dropLast_concat]

/-- A torn text loses the quotes at its ends, which do not belong together. -/
theorem not_unquoted_of_torn {t : Text} (h : Torn t) : ¬ Unquoted t (unquote t) := by
  obtain ⟨q, items, s, hvalid, rfl⟩ := h
  have htext : (Stretch.quoted q items).text ++ s ++ [q]
      = q :: (items.flatMap QuotedItem.text ++ q :: s ++ [q]) := by simp [Stretch.text]
  -- What is unquoted is shorter than it was.
  have hlength := length_unescape_le (items.flatMap QuotedItem.text ++ q :: s)
  rw [← unquote_between hvalid.1, ← htext] at hlength
  generalize hwhole : (Stretch.quoted q items).text ++ s ++ [q] = whole at htext hlength ⊢
  generalize unquote whole = result at hlength ⊢
  intro hun
  cases hun with
  | literal hvalid' => exact ne_text_of_torn hvalid' hvalid hwhole.symm
  | other =>
    rw [htext] at hlength
    simp only [List.length_append, List.length_cons, List.length_nil] at hlength
    omega

/-- A text is unquoted as it should be exactly if it is not torn, unless a quote is not closed. -/
theorem unquoted_iff {t : Text} (h : ¬ Unclosed t) : Unquoted t (unquote t) ↔ ¬ Torn t := by
  refine ⟨mt not_unquoted_of_torn ∘ not_not_intro, fun htorn => ?_⟩
  by_cases hends : ∃ q s, IsQuote q ∧ t = q :: (s ++ [q])
  · obtain ⟨q, s, hq, rfl⟩ := hends
    obtain ⟨items, hvalid, hliteral⟩ :=
      (literal_or_torn hq s).resolve_right fun hrest => hrest.elim htorn h
    have hs : s = items.flatMap QuotedItem.text :=
      (List.append_inj' (List.cons.inj hliteral).2 rfl).1
    rw [unquote_between hq, hliteral, hs, unescape_items hvalid.2]
    exact .literal hvalid
  · -- Without quotes on both sides nothing is done, and the text is no literal.
    have hunquote : unquote t = t := by
      unfold unquote
      split
      · rename_i q rest
        split
        · rename_i hq
          obtain ⟨s, hs⟩ := List.getLast?_eq_some_iff.1 hq.2
          exact absurd ⟨q, s, hq.1, by rw [hs]⟩ hends
        · rfl
      · rfl
    rw [hunquote]
    exact .other fun q items hvalid heq =>
      hends ⟨q, items.flatMap QuotedItem.text, hvalid.1, heq⟩

/-! ## Following the quotes -/

/-- The quote that is open behind a character. -/
def turn (quote : Option Char) (c : Char) : Option Char :=
  match quote with
  | some q => if c = q then none else some q
  | none => if c = '"' ∨ c = '\'' then some c else none

/-- The quote that is open behind a text. A backslash in quotes takes the next character with it,
and if `everywhere` is set, so does one outside. -/
def openQuote (everywhere : Bool) (quote : Option Char) : Text → Option Char
  | [] => quote
  | ['\\'] => quote
  | '\\' :: c :: s =>
    openQuote everywhere (if everywhere || quote.isSome then quote else turn quote c) s
  | c :: s => openQuote everywhere (turn quote c) s

/-- A text that does not end within an escape. -/
inductive Whole : Text → Prop
  | nil : Whole []
  | plain {c : Char} {s : Text} (hc : c ≠ '\\') (h : Whole s) : Whole (c :: s)
  | escape {c : Char} {s : Text} (h : Whole s) : Whole ('\\' :: c :: s)

/-- Two texts without a cut escape make up another one. -/
theorem Whole.append {s t : Text} (hs : Whole s) (ht : Whole t) : Whole (s ++ t) := by
  induction hs with
  | nil => exact ht
  | plain hc _ ih => exact .plain hc ih
  | escape _ ih => exact .escape ih

/-- Items are whole. -/
theorem whole_items (h : ∀ i ∈ items, i.Valid q) : Whole (items.flatMap QuotedItem.text) := by
  induction items with
  | nil => exact .nil
  | cons i items ih =>
    obtain ⟨hi, hitems⟩ := List.forall_mem_cons.1 h
    cases i with
    | plain c => exact .plain hi.2 (ih hitems)
    | escape c => exact .escape (ih hitems)

section Quotes

variable (everywhere : Bool) (quote : Option Char)

/-- A character that is no backslash turns the quotes. -/
theorem openQuote_plain {c : Char} (hc : c ≠ '\\') (s : Text) :
    openQuote everywhere quote (c :: s) = openQuote everywhere (turn quote c) s := by
  rw [openQuote]
  · exact fun h _ => hc h
  · exact fun _ _ h => absurd h hc

/-- Behind a whole text, the quotes are followed from where they have been left. -/
theorem openQuote_append {s : Text} (hs : Whole s) (t : Text) :
    openQuote everywhere quote (s ++ t)
      = openQuote everywhere (openQuote everywhere quote s) t := by
  induction hs generalizing quote with
  | nil => rfl
  | @plain c s hc _ ih =>
    rw [List.cons_append, openQuote_plain _ _ hc, openQuote_plain _ _ hc, ih]
  | @escape c s _ ih =>
    rw [List.cons_append, List.cons_append, openQuote, openQuote, ih]

/-- In quotes, a backslash takes the next character with it. -/
theorem openQuote_escape (c : Char) (s : Text) :
    openQuote everywhere (some q) ('\\' :: c :: s) = openQuote everywhere (some q) s := by
  rw [openQuote, Option.isSome_some, Bool.or_true, if_pos rfl]

/-- The items of a literal do not close its quote. -/
theorem openQuote_items (h : ∀ i ∈ items, i.Valid q) :
    openQuote everywhere (some q) (items.flatMap QuotedItem.text) = some q := by
  induction items with
  | nil => rfl
  | cons i items ih =>
    obtain ⟨hi, hitems⟩ := List.forall_mem_cons.1 h
    rw [List.flatMap_cons]
    cases i with
    | plain c =>
      show openQuote everywhere (some q) (c :: items.flatMap QuotedItem.text) = _
      rw [openQuote_plain _ _ hi.2, turn, if_neg hi.1, ih hitems]
    | escape c => exact (openQuote_escape everywhere c _).trans (ih hitems)

/-- One character opens nothing but a quote. -/
theorem isQuote_turn {quote : Option Char} (hquote : ∀ q ∈ quote, IsQuote q) (c : Char) :
    ∀ q ∈ turn quote c, IsQuote q := by
  intro q hq
  unfold turn at hq
  split at hq
  · split at hq
    · cases hq
    · exact hquote q hq
  · split at hq
    · cases hq
      assumption
    · cases hq

/-- Only quotes are ever open. -/
theorem isQuote_openQuote {quote : Option Char} (hquote : ∀ q ∈ quote, IsQuote q) (s : Text) :
    ∀ q ∈ openQuote everywhere quote s, IsQuote q := by
  fun_induction openQuote everywhere quote s with
  | case1 => exact hquote
  | case2 => exact hquote
  | case3 quote c s ih =>
    refine ih ?_
    split
    · exact hquote
    · exact isQuote_turn hquote c
  | case4 quote c s _ _ ih => exact ih (isQuote_turn hquote c)

/-- Blanks turn no quotes. -/
theorem openQuote_blanks {blanks : Text} (h : ∀ c ∈ blanks, isBlank c)
    (hquote : ∀ q ∈ quote, IsQuote q) : openQuote everywhere quote blanks = quote := by
  induction blanks with
  | nil => rfl
  | cons c blanks ih =>
    obtain ⟨hc, hblanks⟩ := List.forall_mem_cons.1 h
    have hescape : c ≠ '\\' := by
      rintro rfl
      exact absurd hc (by decide)
    have hturn : turn quote c = quote := by
      cases quote with
      | none => exact if_neg fun hq => not_isBlank_of_isQuote hq hc
      | some q =>
        refine if_neg ?_
        rintro rfl
        exact not_isBlank_of_isQuote (hquote c rfl) hc
    rw [openQuote_plain _ _ hescape, hturn, ih hblanks]

/-- Neither an escaped character nor blanks behind it close a quote. -/
theorem openQuote_escape_blanks (hq : IsQuote q) (c : Char) {blanks : Text}
    (h : ∀ c ∈ blanks, isBlank c) :
    openQuote everywhere (some q) ('\\' :: c :: blanks) = some q := by
  have hopen : ∀ q' ∈ some q, IsQuote q' := by
    rintro _ ⟨⟩
    exact hq
  rw [openQuote_escape, openQuote_blanks _ _ h hopen]

end Quotes

/-- For the grammar, a backslash outside of quotes does nothing. -/
theorem openQuote_bare_escape (s : Text) :
    openQuote false none ('\\' :: s) = openQuote false none s := by
  induction s with
  | nil => rfl
  | cons c s ih =>
    by_cases hc : c = '\\'
    · rw [hc, ih, openQuote]
      rfl
    · rw [openQuote_plain _ _ hc, openQuote]
      rfl

/-- All quotes of an argument are closed. -/
theorem openQuote_argumentText {parts : List Stretch} (h : ∀ p ∈ parts, p.Valid) :
    openQuote false none (argumentText parts) = none := by
  induction parts with
  | nil => rfl
  | cons p parts ih =>
    obtain ⟨hp, hparts⟩ := List.forall_mem_cons.1 h
    have htext : argumentText (p :: parts) = p.text ++ argumentText parts := rfl
    rw [htext]
    cases p with
    | bare c =>
      have hturn : turn none c = none := if_neg hp.2.2
      by_cases hc : c = '\\'
      · rw [hc]
        exact (openQuote_bare_escape _).trans (ih hparts)
      · show openQuote false none (c :: argumentText parts) = none
        rw [openQuote_plain _ _ hc, hturn, ih hparts]
    | quoted q items =>
      have hopen : turn none q = some q := if_pos hp.1
      have hclose : turn (some q) q = none := if_pos rfl
      rw [Stretch.text, List.cons_append, List.append_assoc, List.singleton_append]
      calc openQuote false none (q :: (items.flatMap QuotedItem.text ++ q :: argumentText parts))
          = openQuote false (some q)
              (items.flatMap QuotedItem.text ++ q :: argumentText parts) := by
            rw [openQuote_plain _ _ hp.1.ne_escape, hopen]
        _ = openQuote false (some q) (q :: argumentText parts) := by
            rw [openQuote_append _ _ (whole_items hp.2), openQuote_items _ hp.2]
        _ = openQuote false none (argumentText parts) := by
            rw [openQuote_plain _ _ hp.1.ne_escape, hclose]
        _ = none := ih hparts

/-- A quote that is never closed is open at the end for the grammar, and if the quotes before it are
closed, also for the search for commas. -/
theorem isSome_of_unclosed {t : Text} (h : Unclosed t) {before blanks : Text}
    (hbefore : Whole before) (hblanks : ∀ c ∈ blanks, isBlank c) :
    (openQuote false none (before ++ t ++ blanks)).isSome ∧
      (openQuote true none before = none →
        (openQuote true none (before ++ t ++ blanks)).isSome) := by
  obtain ⟨q, items, hq, hitems, rfl⟩ := h
  have hopen : turn none q = some q := if_pos hq
  have hwhole : Whole (before ++ q :: items.flatMap QuotedItem.text) :=
    hbefore.append (.plain hq.ne_escape (whole_items hitems))
  have htext : before ++ q :: (items.flatMap QuotedItem.text ++ ['\\', q]) ++ blanks
      = before ++ q :: items.flatMap QuotedItem.text ++ '\\' :: q :: blanks := by simp
  rw [htext, openQuote_append _ _ hwhole, openQuote_append _ _ hwhole]
  constructor
  · -- For the grammar the first quote may close one that was open before it. Then the backslash is
    -- outside of quotes and the last quote opens one, and otherwise the last quote is escaped.
    cases hstate : openQuote false none (before ++ q :: items.flatMap QuotedItem.text) with
    | none =>
      have hlast : ∀ q' ∈ some q, IsQuote q' := by
        rintro _ ⟨⟩
        exact hq
      show (openQuote false (turn none q) blanks).isSome
      rw [hopen, openQuote_blanks _ _ hblanks hlast]
      rfl
    | some q' =>
      have hnone : ∀ c ∈ (none : Option Char), IsQuote c := by
        rintro _ ⟨⟩
      have hq' : IsQuote q' := isQuote_openQuote false hnone _ q' hstate
      rw [openQuote_escape_blanks _ hq' _ hblanks]
      rfl
  · intro hclosed
    have hstate : openQuote true none (before ++ q :: items.flatMap QuotedItem.text) = some q := by
      calc openQuote true none (before ++ q :: items.flatMap QuotedItem.text)
          = openQuote true none (q :: items.flatMap QuotedItem.text) := by
            rw [openQuote_append _ _ hbefore, hclosed]
        _ = openQuote true (some q) (items.flatMap QuotedItem.text) := by
            rw [openQuote_plain _ _ hq.ne_escape, hopen]
        _ = some q := openQuote_items _ hitems
    rw [hstate, openQuote_escape_blanks _ hq _ hblanks]
    rfl

/-! ## Parts -/

/-- The parts of an argument as they are written. `part` holds the characters of the next part, the
last one first, and `quote` the quote that is open. -/
def piecesFrom (part : Text) (quote : Option Char) : Text → List Text
  | [] => [part.reverse]
  | ['\\'] => [('\\' :: part).reverse]
  | '\\' :: c :: s => piecesFrom (c :: '\\' :: part) quote s
  | c :: s =>
    if quote = none ∧ c = ',' then part.reverse :: piecesFrom [] none s
    else piecesFrom (c :: part) (turn quote c) s

/-- The parts of an argument as they are written between the commas outside of quotes. -/
def pieces (s : Text) : List Text :=
  piecesFrom [] none s

variable {part : Text} {quote : Option Char}

/-- Splitting an argument yields its parts, trimmed and unquoted. -/
theorem splitFrom_eq_map (done : List Text) (part : Text) (quote : Option Char) (s : Text) :
    splitFrom done part quote s
      = done.reverse ++ (piecesFrom part quote s).map fun p => unquote (Text.trim p) := by
  fun_induction piecesFrom part quote s generalizing done with
  | case1 part quote => simp [splitFrom]
  | case2 part quote => simp [splitFrom]
  | case3 part quote c s ih => rw [splitFrom_escape, ih]
  | case4 part quote c s hlast hesc hcomma ih =>
    obtain ⟨rfl, rfl⟩ := hcomma
    rw [splitFrom_comma, ih]
    simp
  | case5 part quote c s hlast hesc hcomma ih =>
    have hne : c ≠ '\\' := ne_escape_of_cases hlast hesc
    rw [← ih]
    cases quote with
    | some q => exact splitFrom_inside hne s
    | none => exact splitFrom_outside hne (fun hc => hcomma ⟨rfl, hc⟩) s

/-- There is at least one part. -/
theorem piecesFrom_ne_nil (part : Text) (quote : Option Char) (s : Text) :
    piecesFrom part quote s ≠ [] := by
  fun_induction piecesFrom part quote s with
  | case1 | case2 | case4 => exact List.cons_ne_nil _ _
  | case3 _ _ _ _ ih => exact ih
  | case5 _ _ _ _ _ _ _ ih => exact ih

/-- The parts with commas between them make up the argument. -/
theorem join_piecesFrom (part : Text) (quote : Option Char) (s : Text) :
    Text.join [','] (piecesFrom part quote s) = part.reverse ++ s := by
  fun_induction piecesFrom part quote s with
  | case1 part quote => simp [Text.join]
  | case2 part quote => simp [Text.join]
  | case3 part quote c s ih =>
    rw [ih]
    simp
  | case4 part quote c s hlast hesc hcomma ih =>
    obtain ⟨next, rest, hnext⟩ := List.exists_cons_of_ne_nil (piecesFrom_ne_nil [] none s)
    rw [hnext] at ih ⊢
    rw [Text.join_cons_cons, ih, hcomma.2]
    simp
  | case5 part quote c s hlast hesc hcomma ih =>
    rw [ih]
    simp

/-- In a part before a comma all quotes are closed; the last part is the end of the argument. -/
theorem mem_piecesFrom {p s : Text} (hp : p ∈ piecesFrom part quote s)
    (hwhole : Whole part.reverse) (hquote : openQuote true none part.reverse = quote) :
    openQuote true none p = none ∨ ∃ before, Whole before ∧ part.reverse ++ s = before ++ p := by
  fun_induction piecesFrom part quote s with
  | case1 part quote =>
    rw [List.mem_singleton.1 hp]
    exact .inr ⟨[], .nil, by simp⟩
  | case2 part quote =>
    rw [List.mem_singleton.1 hp]
    exact .inr ⟨[], .nil, by simp⟩
  | case3 part quote c s ih =>
    have htext : (c :: '\\' :: part).reverse = part.reverse ++ ['\\', c] := by simp
    rw [htext] at ih
    have hpart := ih hp (hwhole.append (.escape .nil)) (by
      rw [openQuote_append _ _ hwhole, hquote]
      rfl)
    simpa using hpart
  | case4 part quote c s hlast hesc hcomma ih =>
    -- The comma is outside of quotes, so that all quotes of the part before it are closed.
    obtain ⟨rfl, rfl⟩ := hcomma
    rcases List.mem_cons.1 hp with rfl | hp
    · exact .inl hquote
    · refine (ih hp .nil rfl).imp_right ?_
      rintro ⟨before, hbefore, hs⟩
      refine ⟨part.reverse ++ ',' :: before, hwhole.append (.plain (by decide) hbefore), ?_⟩
      rw [List.append_assoc, List.cons_append, ← hs]
      rfl
  | case5 part quote c s hlast hesc hcomma ih =>
    have hne : c ≠ '\\' := ne_escape_of_cases hlast hesc
    rw [List.reverse_cons] at ih
    have hpart := ih hp (hwhole.append (.plain hne .nil)) (by
      rw [openQuote_append _ _ hwhole, hquote, openQuote_plain _ _ hne]
      rfl)
    simpa using hpart

/-! ## Arguments of the grammar -/

/-- What is stripped of a text are blanks. -/
theorem exists_blanks (s : Text) :
    ∃ before after, (∀ c ∈ before, isBlank c) ∧ (∀ c ∈ after, isBlank c) ∧
      s = before ++ Text.trim s ++ after := by
  refine ⟨s.takeWhile isBlank, ((Text.trimStart s).reverse.takeWhile isBlank).reverse,
    fun c hc => List.mem_takeWhile_imp hc,
    fun c hc => List.mem_takeWhile_imp (List.mem_reverse.1 hc), ?_⟩
  rw [Text.trim, Text.trimEnd, List.append_assoc, ← List.reverse_append,
    List.takeWhile_append_dropWhile, List.reverse_reverse, Text.trimStart,
    List.takeWhile_append_dropWhile]

/-- Blanks are whole. -/
theorem whole_blanks {blanks : Text} (h : ∀ c ∈ blanks, isBlank c) : Whole blanks := by
  induction blanks with
  | nil => exact .nil
  | cons c blanks ih =>
    obtain ⟨hc, hblanks⟩ := List.forall_mem_cons.1 h
    refine .plain ?_ (ih hblanks)
    rintro rfl
    exact absurd hc (by decide)

/-- No quote stays open in a part of an argument. -/
theorem not_unclosed {parts : List Stretch} (hparts : ∀ p ∈ parts, p.Valid) {p : Text}
    (hp : p = argumentText parts ∨ p ∈ pieces (argumentText parts)) : ¬ Unclosed (Text.trim p) := by
  have hcases : openQuote true none p = none ∨
      ∃ before, Whole before ∧ argumentText parts = before ++ p := by
    rcases hp with rfl | hp
    · exact .inr ⟨[], .nil, rfl⟩
    · exact mem_piecesFrom hp .nil rfl
  obtain ⟨left, right, hleft, hright, htext⟩ := exists_blanks p
  intro hunclosed
  rcases hcases with hclosed | ⟨before, hbefore, hargument⟩
  · -- A part before a comma is closed for the search for commas.
    have hstart : openQuote true none left = none := openQuote_blanks true none hleft (by simp)
    have hopen := (isSome_of_unclosed hunclosed (whole_blanks hleft) hright).2 hstart
    rw [← htext, hclosed] at hopen
    cases hopen
  · -- The end of an argument is closed for the grammar.
    have hopen := (isSome_of_unclosed hunclosed (hbefore.append (whole_blanks hleft)) hright).1
    rw [List.append_assoc before, List.append_assoc before, ← htext, ← hargument,
      openQuote_argumentText hparts] at hopen
    cases hopen

/-- An argument of a filter call that is accepted follows the grammar. -/
theorem exists_parts_of_parse {body : Text} {v : Variable} (hbody : Body.parse body = .lookup v)
    {call : FilterCall} (hcall : call ∈ v.filters) {arg : Text} (harg : call.arg = some arg) :
    ∃ parts : List Stretch, (∀ p ∈ parts, p.Valid) ∧ arg = argumentText parts := by
  obtain ⟨t, ht, -, rfl⟩ := Body.exists_tree_of_parse hbody
  obtain ⟨c, hc, rfl⟩ := List.mem_map.1 hcall
  obtain ⟨parts, hparts, rfl⟩ := Option.map_eq_some_iff.1 harg
  exact ⟨parts, (ht.calls c hc).arg parts hparts, rfl⟩

/-- The argument of a filter call that is accepted, and each of its parts between commas, becomes
what it should when the blanks around it are stripped and it is unquoted, namely the inside of a
quoted literal or else the text itself, exactly if it is not torn. The parts that are unquoted are
those that splitting the argument returns. -/
theorem unquote_part_iff {body : Text} {v : Variable} (hbody : Body.parse body = .lookup v)
    {call : FilterCall} (hcall : call ∈ v.filters) {arg : Text} (harg : call.arg = some arg) :
    split arg = (pieces arg).map (fun p => unquote (Text.trim p)) ∧
      Text.join [','] (pieces arg) = arg ∧
      ∀ p, p = arg ∨ p ∈ pieces arg →
        (Unquoted (Text.trim p) (unquote (Text.trim p)) ↔ ¬ Torn (Text.trim p)) := by
  obtain ⟨parts, hparts, rfl⟩ := exists_parts_of_parse hbody hcall harg
  exact ⟨splitFrom_eq_map [] [] none _, join_piecesFrom [] none _,
    fun _ hp => unquoted_iff (not_unclosed hparts hp)⟩

/-- Two literals with a comma in the first and between them: each part is a literal, and the whole
argument is torn. -/
theorem unquote_part_iff_two_literals :
    Body.parse "$x:replace('a,b' , 'c')".toList = .lookup ⟨"x".toList, "x".toList,
      [⟨"replace".toList, some "'a,b' , 'c'".toList⟩], none⟩ ∧
    pieces "'a,b' , 'c'".toList = ["'a,b' ".toList, " 'c'".toList] ∧
    (∀ p ∈ ["'a,b' ".toList, " 'c'".toList],
      (Unquoted (Text.trim p) (unquote (Text.trim p)) ↔ ¬ Torn (Text.trim p))) ∧
    ¬ Unquoted (Text.trim "'a,b' , 'c'".toList) (unquote (Text.trim "'a,b' , 'c'".toList)) := by
  have hbody : Body.parse "$x:replace('a,b' , 'c')".toList = .lookup ⟨"x".toList, "x".toList,
      [⟨"replace".toList, some "'a,b' , 'c'".toList⟩], none⟩ := by decide +kernel
  have hpieces : pieces "'a,b' , 'c'".toList = ["'a,b' ".toList, " 'c'".toList] := by decide +kernel
  obtain ⟨-, -, hparts⟩ := unquote_part_iff hbody List.mem_cons_self rfl
  have htorn : Torn (Text.trim "'a,b' , 'c'".toList) :=
    ⟨'\'', [.plain 'a', .plain ',', .plain 'b'], " , 'c".toList,
      ⟨.inr rfl, by simp [QuotedItem.Valid]⟩, by decide +kernel⟩
  exact ⟨hbody, hpieces, fun p hp => hparts p (.inr (hpieces ▸ hp)),
    fun hun => (hparts _ (.inl rfl)).1 hun htorn⟩

/-- Two literals with a text between them are accepted as an argument, and they are unquoted though
they are not one literal. -/
theorem not_only_literals_unquoted :
    Body.parse "$x:suffix('a' b 'c')".toList = .lookup ⟨"x".toList, "x".toList,
      [⟨"suffix".toList, some "'a' b 'c'".toList⟩], none⟩ ∧
    pieces "'a' b 'c'".toList = ["'a' b 'c'".toList] ∧
    unquote (Text.trim "'a' b 'c'".toList) = "a' b 'c".toList ∧
    ¬ Unquoted (Text.trim "'a' b 'c'".toList) (unquote (Text.trim "'a' b 'c'".toList)) := by
  have htorn : Torn (Text.trim "'a' b 'c'".toList) :=
    ⟨'\'', [.plain 'a'], " b 'c".toList, ⟨.inr rfl, by simp [QuotedItem.Valid]⟩, by decide +kernel⟩
  exact ⟨by decide +kernel, by decide +kernel, by decide +kernel, not_unquoted_of_torn htorn⟩

end Argument

end Stencil
