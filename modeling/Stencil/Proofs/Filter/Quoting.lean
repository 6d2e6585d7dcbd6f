import Stencil.Filter.Text
import Stencil.Proofs.Template.Grammar
import Stencil.Proofs.Text.Split

/-!
# Quoting

Any text can be written in quotes: `quoted` puts a backslash before each quote and each backslash.
The grammar reads such a text as one quoted literal (`text_literal`), taking the quotes off gives
the text back (`unquote_quoted`), and the search for the commas that separate arguments takes it,
with blanks around it, for one part (`splitFrom_part`).
-/

namespace Stencil

open Body (IsQuote QuotedItem Stretch)

namespace Argument

/-! ## Texts in quotes -/

/-- A text with a backslash before each quote and each backslash. -/
def escaped (q : Char) (s : Text) : Text :=
  s.flatMap fun c => if c = q ∨ c = '\\' then ['\\', c] else [c]

/-- A text in quotes. -/
def quoted (q : Char) (s : Text) : Text :=
  q :: (escaped q s ++ [q])

variable {q c : Char}

/-- A quote or a backslash is written behind a backslash. -/
theorem escaped_cons_of_special (h : c = q ∨ c = '\\') (s : Text) :
    escaped q (c :: s) = '\\' :: c :: escaped q s := by
  rw [escaped, List.flatMap_cons, if_pos h]
  rfl

/-- Any other character is written as it is. -/
theorem escaped_cons_of_plain (h : ¬ (c = q ∨ c = '\\')) (s : Text) :
    escaped q (c :: s) = c :: escaped q s := by
  rw [escaped, List.flatMap_cons, if_neg h]
  rfl

/-! ## The grammar -/

/-- A text in quotes as a literal of the grammar. -/
def literal (q : Char) (s : Text) : Stretch :=
  .quoted q (s.map fun c => if c = q ∨ c = '\\' then .escape c else .plain c)

/-- The literal of a text is the text in quotes. -/
theorem text_literal (q : Char) (s : Text) : (literal q s).text = quoted q s := by
  have hitem : ∀ c : Char,
      (if c = q ∨ c = '\\' then QuotedItem.escape c else QuotedItem.plain c).text
        = if c = q ∨ c = '\\' then ['\\', c] else [c] := by
    intro c
    split <;> rfl
  rw [literal, Stretch.text, List.flatMap_map, quoted, escaped]
  simp only [hitem]

/-- The literal of a text follows the grammar. -/
theorem valid_literal (hq : IsQuote q) (s : Text) : (literal q s).Valid := by
  refine ⟨hq, fun i hi => ?_⟩
  obtain ⟨c, -, rfl⟩ := List.mem_map.1 hi
  split
  · trivial
  · exact not_or.1 ‹_›

/-- The parts of an argument with two texts in quotes and a comma between them. -/
def literals (q : Char) (s : Text) (q' : Char) (t : Text) : List Stretch :=
  [literal q s, .bare ',', .bare ' ', literal q' t]

/-- The two literals are the texts in quotes. -/
theorem text_literals (q : Char) (s : Text) (q' : Char) (t : Text) :
    Body.argumentText (literals q s q' t) = quoted q s ++ ", ".toList ++ quoted q' t := by
  calc Body.argumentText (literals q s q' t)
      = (literal q s).text ++ (", ".toList ++ ((literal q' t).text ++ [])) := rfl
    _ = quoted q s ++ ", ".toList ++ quoted q' t := by
        rw [text_literal, text_literal, List.append_nil, List.append_assoc]

/-- The two literals follow the grammar, and so does what is between them. -/
theorem valid_literals {q' : Char} (hq : IsQuote q) (s : Text) (hq' : IsQuote q') (t : Text) :
    ∀ p ∈ literals q s q' t, p.Valid := by
  have hbare : ∀ c ∈ [',', ' '], (Stretch.bare c).Valid := by
    simp [Stretch.Valid, IsQuote]
  simpa [literals] using
    ⟨valid_literal hq s, hbare ',' (by simp), hbare ' ' (by simp), valid_literal hq' t⟩

/-! ## Taking the quotes off -/

/-- A backslash stands for the character behind it. -/
theorem unescape_escape (c : Char) (s : Text) : unescape ('\\' :: c :: s) = c :: unescape s := by
  rw [unescape]

/-- Any other character stands for itself. -/
theorem unescape_plain (h : c ≠ '\\') (s : Text) : unescape (c :: s) = c :: unescape s := by
  rw [unescape]
  · exact fun hc _ => h hc
  · exact fun _ _ hc => absurd hc h

/-- The backslashes that have been written stand for the text. -/
theorem unescape_escaped (q : Char) (s : Text) : unescape (escaped q s) = s := by
  induction s with
  | nil => rfl
  | cons c s ih =>
    by_cases hc : c = q ∨ c = '\\'
    · rw [escaped_cons_of_special hc, unescape_escape, ih]
    · rw [escaped_cons_of_plain hc, unescape_plain (not_or.1 hc).2, ih]

/-- The text in the quotes is the text. -/
theorem unquote_quoted (hq : IsQuote q) (s : Text) : unquote (quoted q s) = s := by
  have hends : (q = '"' ∨ q = '\'') ∧ (escaped q s ++ [q]).getLast? = some q :=
    ⟨hq, List.getLast?_concat⟩
  rw [quoted, unquote, if_pos hends, List.dropLast_concat, unescape_escaped]

/-! ## Blanks -/

/-- A quote is no blank. -/
theorem not_isBlank_of_isQuote (hq : IsQuote q) : ¬ isBlank q := by
  rcases hq with rfl | rfl <;> decide

/-- Blanks around a text in quotes are stripped. -/
theorem trim_quoted (hq : IsQuote q) {before after : Text} (hbefore : ∀ c ∈ before, isBlank c)
    (hafter : ∀ c ∈ after, isBlank c) (s : Text) :
    Text.trim (before ++ quoted q s ++ after) = quoted q s := by
  have hstart : Text.trimStart (before ++ quoted q s ++ after) = quoted q s ++ after := by
    rw [Text.trimStart, List.append_assoc, List.dropWhile_append_of_pos hbefore, quoted,
      List.cons_append, List.dropWhile_cons_of_neg (not_isBlank_of_isQuote hq)]
  have hreverse : (quoted q s ++ after).reverse
      = after.reverse ++ q :: ((escaped q s).reverse ++ [q]) := by
    simp [quoted]
  rw [Text.trim, hstart, Text.trimEnd, hreverse,
    List.dropWhile_append_of_pos fun c hc => hafter c (List.mem_reverse.1 hc),
    List.dropWhile_cons_of_neg (not_isBlank_of_isQuote hq)]
  simp [quoted]

/-- A text argument in quotes is the text. -/
theorem text_quoted (hq : IsQuote q) (filter s : Text) :
    text filter (some (quoted q s)) = .ok s := by
  have htrim : Text.trim (quoted q s) = quoted q s := by
    have hnone : ∀ c ∈ ([] : Text), isBlank c := fun c hc => by cases hc
    have h := trim_quoted hq hnone hnone s
    rwa [List.append_nil] at h
  rw [text, htrim, unquote_quoted hq]

/-! ## Several arguments -/

variable {done : List Text} {part : Text}

/-- A backslash takes the next character with it. -/
theorem splitFrom_escape (quote : Option Char) (c : Char) (s : Text) :
    splitFrom done part quote ('\\' :: c :: s) = splitFrom done (c :: '\\' :: part) quote s := by
  rw [splitFrom]

/-- Inside of quotes only the quote counts. -/
theorem splitFrom_inside (h : c ≠ '\\') (s : Text) :
    splitFrom done part (some q) (c :: s)
      = splitFrom done (c :: part) (if c = q then none else some q) s := by
  rw [splitFrom]
  · exact fun hc _ => h hc
  · exact fun _ _ hc => absurd hc h

/-- Outside of quotes, a character that is no comma belongs to the part. -/
theorem splitFrom_outside (h : c ≠ '\\') (hcomma : c ≠ ',') (s : Text) :
    splitFrom done part none (c :: s)
      = splitFrom done (c :: part) (if c = '"' ∨ c = '\'' then some c else none) s := by
  rw [splitFrom]
  · rw [if_neg hcomma]
  · exact fun hc _ => h hc
  · exact fun _ _ hc => absurd hc h

/-- Outside of quotes, a comma ends the part. -/
theorem splitFrom_comma (s : Text) :
    splitFrom done part none (',' :: s)
      = splitFrom (unquote (Text.trim part.reverse) :: done) [] none s := by
  rw [splitFrom] <;> simp

/-- Blanks belong to the part. -/
theorem splitFrom_blanks {blanks : Text} (h : ∀ c ∈ blanks, isBlank c) (t : Text) :
    splitFrom done part none (blanks ++ t) = splitFrom done (blanks.reverse ++ part) none t := by
  induction blanks generalizing part with
  | nil => rfl
  | cons c blanks ih =>
    obtain ⟨hc, hblanks⟩ := List.forall_mem_cons.1 h
    have hescape : c ≠ '\\' := by
      rintro rfl
      exact absurd hc (by decide)
    have hcomma : c ≠ ',' := by
      rintro rfl
      exact absurd hc (by decide)
    have hquote : ¬ (c = '"' ∨ c = '\'') := fun hq => not_isBlank_of_isQuote hq hc
    rw [List.cons_append, splitFrom_outside hescape hcomma, if_neg hquote, ih hblanks,
      List.reverse_cons, List.append_assoc, List.singleton_append]

/-- What stands in quotes belongs to the part. -/
theorem splitFrom_escaped (q : Char) (s t : Text) :
    splitFrom done part (some q) (escaped q s ++ t)
      = splitFrom done ((escaped q s).reverse ++ part) (some q) t := by
  induction s generalizing part with
  | nil => rfl
  | cons c s ih =>
    by_cases hc : c = q ∨ c = '\\'
    · rw [escaped_cons_of_special hc, List.cons_append, List.cons_append, splitFrom_escape, ih]
      simp
    · obtain ⟨hquote, hescape⟩ := not_or.1 hc
      rw [escaped_cons_of_plain hc, List.cons_append, splitFrom_inside hescape, if_neg hquote, ih]
      simp

/-- A text in quotes belongs to the part with its quotes. -/
theorem splitFrom_quoted (hq : IsQuote q) (s t : Text) :
    splitFrom done part none (quoted q s ++ t)
      = splitFrom done ((quoted q s).reverse ++ part) none t := by
  have hcomma : q ≠ ',' := by rcases hq with rfl | rfl <;> decide
  have hopen : (if q = '"' ∨ q = '\'' then some q else none) = some q := if_pos hq
  rw [quoted, List.cons_append, List.append_assoc, splitFrom_outside hq.ne_escape hcomma, hopen,
    splitFrom_escaped, List.singleton_append, splitFrom_inside hq.ne_escape, if_pos rfl]
  simp

/-- A text that is written in quotes, with blanks around it. -/
structure Written where
  before : Text := []
  quote : Char
  value : Text
  after : Text := []
  isQuote : IsQuote quote
  isBlank_before : ∀ c ∈ before, isBlank c := by exact List.all_eq_true.1 (by decide)
  isBlank_after : ∀ c ∈ after, isBlank c := by exact List.all_eq_true.1 (by decide)

/-- What is written. -/
def Written.text (w : Written) : Text :=
  w.before ++ quoted w.quote w.value ++ w.after

/-- What is written in quotes is a part of its own, up to the next comma or the end, and the part is
the text. -/
theorem splitFrom_written (w : Written) :
    (∀ t, splitFrom done [] none (w.text ++ ',' :: t)
      = splitFrom (w.value :: done) [] none t) ∧
    splitFrom done [] none w.text = (w.value :: done).reverse := by
  have hpass : ∀ t, splitFrom done [] none (w.text ++ t)
      = splitFrom done w.text.reverse none t := by
    intro t
    rw [Written.text, List.append_assoc, List.append_assoc, splitFrom_blanks w.isBlank_before,
      splitFrom_quoted w.isQuote, splitFrom_blanks w.isBlank_after]
    simp
  have hpart : unquote (Text.trim w.text.reverse.reverse) = w.value := by
    rw [List.reverse_reverse, Written.text,
      trim_quoted w.isQuote w.isBlank_before w.isBlank_after, unquote_quoted w.isQuote]
  constructor
  · intro t
    rw [hpass, splitFrom_comma, hpart]
  · have hend := hpass []
    rw [List.append_nil, splitFrom, hpart] at hend
    exact hend

/-- Texts that are written in quotes and joined by commas are parts of their own, which stand behind
those that are done. -/
theorem splitFrom_join_written {ws : List Written} (hne : ws ≠ []) :
    splitFrom done [] none (Text.join [','] (ws.map Written.text))
      = done.reverse ++ ws.map Written.value := by
  induction ws generalizing done with
  | nil => exact absurd rfl hne
  | cons w rest ih =>
    obtain ⟨hcomma, hend⟩ := @splitFrom_written done w
    cases rest with
    | nil =>
      -- The last text ends with the argument and not at a comma.
      have hjoin : Text.join [','] ([w].map Written.text) = w.text := by simp [Text.join]
      rw [hjoin, hend, List.reverse_cons]
      rfl
    | cons next rest =>
      calc splitFrom done [] none (Text.join [','] ((w :: next :: rest).map Written.text))
          = splitFrom done [] none
              (w.text ++ ',' :: Text.join [','] ((next :: rest).map Written.text)) := by
            rw [List.map_cons, List.map_cons, Text.join_cons_cons, List.append_assoc]
            rfl
        _ = splitFrom (w.value :: done) [] none
              (Text.join [','] ((next :: rest).map Written.text)) := hcomma _
        _ = (w.value :: done).reverse ++ (next :: rest).map Written.value :=
            ih (List.cons_ne_nil _ _)
        _ = done.reverse ++ (w :: next :: rest).map Written.value := by
            rw [List.reverse_cons, List.append_assoc]
            rfl

/-- Two texts in quotes with a comma between them are two parts. -/
theorem split_quoted {q' : Char} (hq : IsQuote q) (hq' : IsQuote q') (s t : Text) :
    split (quoted q s ++ ", ".toList ++ quoted q' t) = [s, t] := by
  have hwritten := @splitFrom_join_written [] [{ quote := q, value := s, isQuote := hq },
    { before := [' '], quote := q', value := t, isQuote := hq' }] (List.cons_ne_nil _ _)
  simpa [split, Text.join, Written.text] using hwritten

/-- Splitting an argument undoes writing texts in quotes, each with a quote of its own and blanks
around it, and joining them by commas. -/
theorem split_join_written {ws : List Written} (hne : ws ≠ []) :
    split (Text.join [','] (ws.map Written.text)) = ws.map Written.value :=
  splitFrom_join_written hne

/-- Three texts: quotes of both kinds, a comma and a backslash at the end, then nothing, then a
blank before and a backslash. -/
def threeWritten : List Written :=
  [{ before := ['\n'], quote := '\'', value := "it's \"a,b\"\\".toList, isQuote := .inr rfl },
    { quote := '"', value := [], after := [' ', '\u00a0'], isQuote := .inl rfl },
    { before := ['\t'], quote := '"', value := " \\\"".toList, isQuote := .inl rfl }]

/-- The three texts are handed over. -/
theorem split_join_written_three :
    threeWritten ≠ [] ∧
      Text.join [','] (threeWritten.map Written.text)
        = "\n'it\\'s \"a,b\"\\\\',\"\" \u00a0,\t\" \\\\\\\"\"".toList ∧
      split "\n'it\\'s \"a,b\"\\\\',\"\" \u00a0,\t\" \\\\\\\"\"".toList
        = ["it's \"a,b\"\\".toList, [], " \\\"".toList] := by
  have hne : threeWritten ≠ [] := List.cons_ne_nil _ _
  have hjoin : Text.join [','] (threeWritten.map Written.text)
      = "\n'it\\'s \"a,b\"\\\\',\"\" \u00a0,\t\" \\\\\\\"\"".toList := by
    decide
  refine ⟨hne, hjoin, ?_⟩
  rw [← hjoin]
  exact split_join_written hne

end Argument

namespace TextFilter

variable {q q' : Char}

/-- A text in quotes is put behind. -/
theorem behind_quoted (hq : IsQuote q) (v s : Text) :
    behind [.text v] (some (Argument.quoted q s)) = .ok [.text (v ++ s)] := by
  rw [behind, Argument.text_quoted hq]
  rfl

/-- A text in quotes is put before. -/
theorem before_quoted (hq : IsQuote q) (v s : Text) :
    before [.text v] (some (Argument.quoted q s)) = .ok [.text (s ++ v)] := by
  rw [before, Argument.text_quoted hq]
  rfl

/-- A text in quotes is replaced by another one. -/
theorem replace_quoted (hq : IsQuote q) (hq' : IsQuote q') {pattern : Text}
    (hpattern : pattern ≠ []) (value v : Text) :
    replace [.text v]
        (some (Argument.quoted q pattern ++ ", ".toList ++ Argument.quoted q' value))
      = .ok [.text (Text.replace pattern value v)] := by
  have hempty : ¬ pattern.isEmpty = true := by simpa using hpattern
  simp only [replace, Argument.split_quoted hq hq']
  rw [if_neg hempty]
  rfl

end TextFilter

end Stencil
