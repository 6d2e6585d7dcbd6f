import Mathlib.Data.List.TakeWhile
import Mathlib.Tactic.Tauto
import Stencil.Proofs.Data.Mapping
import Stencil.Template.Body

/-!
# Derivations of placeholder bodies

The grammar of variables as trees, apart from the parser. A tree has a text, namely the characters
that it derives, and a variable, namely the parts of these characters that matter later on; `Valid`
states which characters may stand where. `exists_tree_of_parse` says that the parser accepts only
what has a tree, and returns the variable of that tree.

Every function of the parser has a lemma of this kind about what it takes off the front of its
input, and the lemma about a function uses those about the functions that it calls.
-/

namespace Stencil.Body

/-! ## Trees -/

/-- A character between quotes, or a backslash with the character that it takes with it. -/
inductive QuotedItem
  | plain (c : Char)
  | escape (c : Char)

/-- A part of an argument: a character outside of quotes, or a quote, what it encloses, and the same
quote. -/
inductive Stretch
  | bare (c : Char)
  | quoted (q : Char) (items : List QuotedItem)

/-- A filter call: its name and, if there are parentheses, the parts of its argument. -/
structure CallTree where
  name : Text
  arg : Option (List Stretch)

/-- A variable: its type name, its key if a dot follows, its filter calls, and its default literal
if there is one. -/
structure VariableTree where
  typeName : Text
  key : Option Text
  calls : List CallTree
  fallback : Option Text

/-! ## Texts -/

/-- The characters of an item. -/
def QuotedItem.text : QuotedItem → Text
  | plain c => [c]
  | escape c => ['\\', c]

/-- The characters of a part of an argument. -/
def Stretch.text : Stretch → Text
  | bare c => [c]
  | quoted q items => q :: (items.flatMap QuotedItem.text ++ [q])

/-- The characters of an argument. -/
def argumentText (parts : List Stretch) : Text :=
  parts.flatMap Stretch.text

/-- The characters of a filter call. -/
def CallTree.text (t : CallTree) : Text :=
  t.name ++ t.arg.elim [] fun parts => '(' :: (argumentText parts ++ [')'])

/-- The characters of filter calls, each behind a colon. -/
def callsText (calls : List CallTree) : Text :=
  calls.flatMap fun t => ':' :: t.text

/-- The characters of a variable. -/
def VariableTree.text (t : VariableTree) : Text :=
  '$' :: (t.typeName ++ t.key.elim [] ('.' :: ·) ++ callsText t.calls
    ++ t.fallback.elim [] ("|default=".toList ++ ·))

/-! ## Parts -/

/-- The filter call with its argument verbatim. -/
def CallTree.call (t : CallTree) : FilterCall :=
  ⟨t.name, t.arg.map argumentText⟩

/-- The variable. Its key is the type name where no dot follows. -/
def VariableTree.variable (t : VariableTree) : Variable :=
  ⟨t.typeName, t.key.getD t.typeName, t.calls.map CallTree.call, t.fallback⟩

/-! ## Valid trees -/

/-- An identifier: a first character and any number of others. -/
def IsIdent (s : Text) : Prop :=
  ∃ c t, s = c :: t ∧ isIdentStart c ∧ ∀ d ∈ t, isIdentChar d

/-- A key: one or more key characters. -/
def IsKey (s : Text) : Prop :=
  s ≠ [] ∧ ∀ c ∈ s, isKeyChar c

/-- The characters that enclose quoted literals. -/
def IsQuote (c : Char) : Prop :=
  c = '"' ∨ c = '\''

/-- A quote is no backslash. -/
theorem IsQuote.ne_escape {q : Char} (hq : IsQuote q) : q ≠ '\\' := by
  rcases hq with rfl | rfl <;> decide

/-- Between quotes, the quote and the backslash stand only behind a backslash. -/
def QuotedItem.Valid (q : Char) : QuotedItem → Prop
  | plain c => c ≠ q ∧ c ≠ '\\'
  | escape _ => True

/-- Outside of quotes, there are neither parentheses nor quotes. -/
def Stretch.Valid : Stretch → Prop
  | bare c => c ≠ '(' ∧ c ≠ ')' ∧ ¬ IsQuote c
  | quoted q items => IsQuote q ∧ ∀ i ∈ items, i.Valid q

/-- The name is an identifier, and the parts of the argument are valid. -/
structure CallTree.Valid (t : CallTree) : Prop where
  name : IsIdent t.name
  arg : ∀ parts ∈ t.arg, ∀ p ∈ parts, p.Valid

/-- The names are identifiers, the key is one, and the filter calls are valid. -/
structure VariableTree.Valid (t : VariableTree) : Prop where
  typeName : IsIdent t.typeName
  key : ∀ k ∈ t.key, IsKey k
  calls : ∀ c ∈ t.calls, c.Valid

/-! ## What the parser accepts -/

/-- A character that begins an identifier may also go on with it. -/
theorem isIdentChar_of_isIdentStart {c : Char} (h : isIdentStart c) : isIdentChar c := by
  simp only [isIdentStart, isIdentChar, Char.isAlphanum, Bool.or_eq_true] at h ⊢
  tauto

/-- An identifier is taken off the front. -/
theorem ident?_eq_some {s name rest : Text} (h : ident? s = some (name, rest)) :
    IsIdent name ∧ s = name ++ rest := by
  cases s with
  | nil => cases h
  | cons c s =>
    simp only [ident?, Option.ite_none_right_eq_some, Option.some.injEq, Prod.mk.injEq] at h
    obtain ⟨hstart, rfl, rfl⟩ := h
    -- The first character is one of those that may follow, so that it is taken with them.
    have hchar := isIdentChar_of_isIdentStart hstart
    refine ⟨⟨c, s.takeWhile isIdentChar, List.takeWhile_cons_of_pos hchar, hstart, ?_⟩, ?_⟩
    · exact fun d hd => List.mem_takeWhile_imp hd
    · exact List.takeWhile_append_dropWhile.symm

/-- What is left of an argument up to the parenthesis that closes it, `n` characters long. Where a
quote is open, the rest of its literal comes first. -/
def Remainder (quote : Option Char) (s : Text) (n : Nat) : Prop :=
  match quote with
  | none => ∃ (parts : List Stretch) (rest : Text), (∀ p ∈ parts, p.Valid) ∧
      s = argumentText parts ++ ')' :: rest ∧ n = (argumentText parts).length
  | some q => ∃ (items : List QuotedItem) (parts : List Stretch) (rest : Text),
      (∀ i ∈ items, i.Valid q) ∧ (∀ p ∈ parts, p.Valid) ∧
      s = items.flatMap QuotedItem.text ++ q :: (argumentText parts ++ ')' :: rest) ∧
      n = (items.flatMap QuotedItem.text).length + 1 + (argumentText parts).length

/-- The characters that are counted make up an argument. -/
theorem remainder_of_argumentLength {quote : Option Char} {n m : Nat} {s : Text}
    (h : argumentLength quote n s = .ok m) : ∃ k, m = n + k ∧ Remainder quote s k := by
  fun_induction argumentLength quote n s with
  | case1 => cases h
  | case2 => cases h
  | case3 n q c s ih =>
    obtain ⟨k, rfl, items, parts, rest, hitems, hparts, rfl, rfl⟩ := ih h
    refine ⟨_, ?_, .escape c :: items, parts, rest, ?_, hparts, rfl, rfl⟩
    · simp only [List.flatMap_cons, QuotedItem.text, List.length_append, List.length_cons,
        List.length_nil]
      omega
    · exact List.forall_mem_cons.2 ⟨trivial, hitems⟩
  | case4 n c s q hesc ih =>
    obtain ⟨k, rfl, hk⟩ := ih h
    by_cases hc : c = q
    · -- The literal ends here, and the argument goes on behind it.
      subst hc
      rw [if_pos rfl] at hk
      obtain ⟨parts, rest, hparts, rfl, rfl⟩ := hk
      exact ⟨_, by simp; omega, [], parts, rest, by simp, hparts, rfl, rfl⟩
    · rw [if_neg hc] at hk
      obtain ⟨items, parts, rest, hitems, hparts, rfl, rfl⟩ := hk
      refine ⟨_, ?_, .plain c :: items, parts, rest, ?_, hparts, rfl, rfl⟩
      · simp only [List.flatMap_cons, QuotedItem.text, List.length_append, List.length_cons,
          List.length_nil]
        omega
      · exact List.forall_mem_cons.2 ⟨⟨hc, hesc⟩, hitems⟩
  | case5 n s =>
    cases h
    exact ⟨0, rfl, [], s, by simp, rfl, rfl⟩
  | case6 => cases h
  | case7 n c s hright hleft ih =>
    obtain ⟨k, rfl, hk⟩ := ih h
    by_cases hc : c = '"' ∨ c = '\''
    · -- The literal that begins here has been read to its end by the rest of the count.
      rw [if_pos hc] at hk
      obtain ⟨items, parts, rest, hitems, hparts, rfl, rfl⟩ := hk
      refine ⟨_, ?_, .quoted c items :: parts, rest, ?_, ?_, rfl⟩
      · simp only [argumentText, List.flatMap_cons, Stretch.text, List.length_append,
          List.length_cons, List.length_nil]
        omega
      · exact List.forall_mem_cons.2 ⟨⟨hc, hitems⟩, hparts⟩
      · simp [argumentText, Stretch.text]
    · rw [if_neg hc] at hk
      obtain ⟨parts, rest, hparts, rfl, rfl⟩ := hk
      refine ⟨_, ?_, .bare c :: parts, rest, ?_, rfl, rfl⟩
      · simp only [argumentText, List.flatMap_cons, Stretch.text, List.length_append,
          List.length_cons, List.length_nil]
        omega
      · exact List.forall_mem_cons.2 ⟨⟨hleft, hright, hc⟩, hparts⟩

/-- A filter call is taken off the front. -/
theorem filter_eq_ok {body s rest : Text} {call : FilterCall}
    (h : filter body s = .ok (call, rest)) :
    ∃ t : CallTree, t.Valid ∧ t.call = call ∧ s = t.text ++ rest := by
  unfold filter at h
  split at h
  · cases h
  · rename_i name s' hident
    obtain ⟨hname, rfl⟩ := ident?_eq_some hident
    split at h
    · rename_i n hn
      cases h
      obtain ⟨k, rfl, parts, rest, hparts, rfl, rfl⟩ := remainder_of_argumentLength hn
      refine ⟨⟨name, some parts⟩, ⟨hname, by simpa using hparts⟩, ?_, ?_⟩
      · simp [CallTree.call]
      · simp [CallTree.text]
    all_goals cases h
  · rename_i name s' _ hident
    cases h
    obtain ⟨hname, rfl⟩ := ident?_eq_some hident
    exact ⟨⟨name, none⟩, ⟨hname, by simp⟩, rfl, by simp [CallTree.text]⟩

/-- Filter calls are taken off the front. -/
theorem filters_eq_ok {body s rest : Text} {done calls : List FilterCall}
    (h : filters body done s = .ok (calls, rest)) :
    ∃ ts : List CallTree, (∀ t ∈ ts, t.Valid) ∧ calls = done.reverse ++ ts.map CallTree.call ∧
      s = callsText ts ++ rest := by
  fun_induction filters body done s with
  | case1 done s call after hcall hlength ih =>
    obtain ⟨t, ht, rfl, rfl⟩ := filter_eq_ok hcall
    obtain ⟨ts, hts, rfl, rfl⟩ := ih h
    exact ⟨t :: ts, List.forall_mem_cons.2 ⟨ht, hts⟩, by simp, by simp [callsText]⟩
  | case2 => cases h
  | case3 done s hs =>
    cases h
    exact ⟨[], by simp, by simp, rfl⟩

/-- A dot and a key are taken off the front, if there is a dot. -/
theorem key_eq_ok {typeName s k rest : Text} (h : key typeName s = .ok (k, rest)) :
    ∃ k' : Option Text, (∀ k ∈ k', IsKey k) ∧ k = k'.getD typeName ∧
      s = k'.elim [] ('.' :: ·) ++ rest := by
  unfold key at h
  split at h
  · rename_i s
    split at h
    · cases h
    · rename_i hne
      cases h
      refine ⟨some (s.takeWhile isKeyChar), ?_, rfl, ?_⟩
      · rintro k ⟨⟩
        exact ⟨hne, fun c hc => List.mem_takeWhile_imp hc⟩
      · simp
  · cases h
    exact ⟨none, by simp, rfl, rfl⟩

/-- At the end of a variable there is a default literal, or nothing. -/
theorem ending_eq_ok {body s : Text} {fallback : Option Text} (h : ending body s = .ok fallback) :
    s = fallback.elim [] ("|default=".toList ++ ·) := by
  unfold ending at h
  split at h
  · cases h
    rfl
  · split at h
    · rename_i literal hmark
      cases h
      rw [Text.dropMark?_eq_some_iff.1 hmark]
      rfl
    · cases h
  · cases h

/-- Only a body that begins with a dollar sign is a variable. -/
theorem parse_eq_lookup {body : Text} {v : Variable} (h : parse body = .lookup v) :
    ∃ s, body = '$' :: s ∧ parseVariable body s = .ok v := by
  unfold parse at h
  split at h
  · cases h
  · cases h
  · cases h
  · rename_i s
    split at h
    · rename_i v' hv
      cases h
      exact ⟨s, rfl, hv⟩
    · cases h
  · cases h

/-- The stages of reading a variable. -/
theorem parseVariable_eq_ok {body s : Text} {v : Variable} (h : parseVariable body s = .ok v) :
    ∃ s₁ s₂ s₃, ident? s = some (v.typeName, s₁) ∧ key v.typeName s₁ = .ok (v.key, s₂) ∧
      filters body [] s₂ = .ok (v.filters, s₃) ∧ ending body s₃ = .ok v.fallback := by
  obtain ⟨⟨typeName, s₁⟩, hident, h⟩ := bind_eq_ok h
  obtain ⟨⟨k, s₂⟩, hkey, h⟩ := bind_eq_ok h
  obtain ⟨⟨calls, s₃⟩, hfilters, h⟩ := bind_eq_ok h
  obtain ⟨fallback, hending, h⟩ := bind_eq_ok h
  cases h
  -- Without an identifier, reading would have stopped with an error.
  have hident : ident? s = some (typeName, s₁) := by
    cases hs : ident? s with
    | none =>
      rw [hs] at hident
      cases hident
    | some p =>
      rw [hs] at hident
      cases hident
      rfl
  exact ⟨s₁, s₂, s₃, hident, hkey, hfilters, hending⟩

/-- What the parser accepts as a variable has a tree. -/
theorem exists_tree_of_parse {body : Text} {v : Variable} (h : parse body = .lookup v) :
    ∃ t : VariableTree, t.Valid ∧ t.text = body ∧ t.variable = v := by
  obtain ⟨s, rfl, hv⟩ := parse_eq_lookup h
  obtain ⟨s₁, s₂, s₃, hident, hkey, hfilters, hending⟩ := parseVariable_eq_ok hv
  obtain ⟨hname, rfl⟩ := ident?_eq_some hident
  obtain ⟨k, hk, hkv, rfl⟩ := key_eq_ok hkey
  obtain ⟨ts, hts, hcalls, rfl⟩ := filters_eq_ok hfilters
  obtain rfl := ending_eq_ok hending
  refine ⟨⟨v.typeName, k, ts, v.fallback⟩, ⟨hname, hk, hts⟩, ?_, ?_⟩
  · simp [VariableTree.text]
  · rw [List.reverse_nil, List.nil_append] at hcalls
    simp only [VariableTree.variable]
    rw [← hkv, ← hcalls]

end Stencil.Body
