import Mathlib.Data.Set.Subsingleton
import Stencil.Proofs.Template.Grammar
import Stencil.Proofs.Text.Replace

/-!
# The parser accepts the grammar

What has a tree is accepted, with the variable of the tree (`parse_of_valid`), and has no other tree
(`tree_unique`). With the soundness of the parser, `parse_iff_grammar` says that the grammar is
exactly what the parser accepts.

The parser takes as much as it can at every step, and never goes back. So each lemma about a step
says that the text of a tree is taken off the front of whatever follows it, provided that this does
not begin with a character that the step would take as well. In a body, what follows is an `IsTail`.
-/

namespace Stencil.Body

/-! ## Steps -/

/-- What follows a key or a filter call: filter calls, a default literal, or nothing. -/
def IsTail (s : Text) : Prop :=
  ∀ c ∈ s.head?, c = ':' ∨ c = '|'

/-- A run of characters ends before the first one that is of another kind. -/
theorem takeWhile_run {p : Char → Bool} {s rest : Text} (hs : ∀ c ∈ s, p c)
    (hrest : ∀ c ∈ rest.head?, ¬ p c) :
    (s ++ rest).takeWhile p = s ∧ (s ++ rest).dropWhile p = rest := by
  rw [List.takeWhile_append_of_pos hs, List.dropWhile_append_of_pos hs]
  cases rest with
  | nil => simp
  | cons c rest => simp [hrest c rfl]

/-- An identifier is taken off the front of what it does not go on with. -/
theorem ident?_append {name rest : Text} (h : IsIdent name)
    (hrest : ∀ c ∈ rest.head?, ¬ isIdentChar c) : ident? (name ++ rest) = some (name, rest) := by
  obtain ⟨c, t, rfl, hc, ht⟩ := h
  have hchars : ∀ d ∈ c :: t, isIdentChar d :=
    List.forall_mem_cons.2 ⟨isIdentChar_of_isIdentStart hc, ht⟩
  obtain ⟨htake, hdrop⟩ := takeWhile_run hchars hrest
  rw [List.cons_append] at htake hdrop ⊢
  rw [ident?, if_pos hc, htake, hdrop]

/-- Inside of quotes, a character is counted, and the quote closes. -/
theorem argumentLength_quoted {q c : Char} (hc : c ≠ '\\') (n : Nat) (s : Text) :
    argumentLength (some q) n (c :: s)
      = argumentLength (if c = q then none else some q) (n + 1) s := by
  rw [argumentLength.eq_def]
  exact if_neg hc

/-- Inside of quotes, a backslash is counted with the character after it. -/
theorem argumentLength_escape (q c : Char) (n : Nat) (s : Text) :
    argumentLength (some q) n ('\\' :: c :: s) = argumentLength (some q) (n + 2) s := by
  rw [argumentLength]
  rfl

/-- Outside of quotes, a character is counted that is neither a parenthesis nor a quote. -/
theorem argumentLength_bare {c : Char} (hleft : c ≠ '(') (hright : c ≠ ')') (hquote : ¬ IsQuote c)
    (n : Nat) (s : Text) : argumentLength none n (c :: s) = argumentLength none (n + 1) s := by
  have hquote : ¬ (c = '"' ∨ c = '\'') := hquote
  rw [argumentLength.eq_def]
  simp only [if_neg hleft, if_neg hright, if_neg hquote]

/-- Outside of quotes, a quote is counted, and it opens a literal. -/
theorem argumentLength_open {q : Char} (hq : IsQuote q) (n : Nat) (s : Text) :
    argumentLength none n (q :: s) = argumentLength (some q) (n + 1) s := by
  rw [argumentLength.eq_def]
  rcases hq with rfl | rfl <;> rfl

/-- The items of a literal are counted, with the quote that closes it. -/
theorem argumentLength_items {q : Char} (hq : q ≠ '\\') {items : List QuotedItem}
    (h : ∀ i ∈ items, i.Valid q) (n : Nat) (s : Text) :
    argumentLength (some q) n (items.flatMap QuotedItem.text ++ q :: s)
      = argumentLength none (n + (items.flatMap QuotedItem.text).length + 1) s := by
  induction items generalizing n with
  | nil => exact (argumentLength_quoted hq n s).trans (by rw [if_pos rfl]; rfl)
  | cons i items ih =>
    obtain ⟨hi, hitems⟩ := List.forall_mem_cons.1 h
    rw [List.flatMap_cons, List.append_assoc, List.length_append, ← Nat.add_assoc, ← ih hitems]
    cases i with
    | plain c => exact (argumentLength_quoted hi.2 n _).trans (by rw [if_neg hi.1]; rfl)
    | escape c => exact argumentLength_escape q c n _

/-- The parts of an argument are counted up to the parenthesis that closes it. -/
theorem argumentLength_parts {parts : List Stretch} (h : ∀ p ∈ parts, p.Valid) (n : Nat)
    (rest : Text) :
    argumentLength none n (argumentText parts ++ ')' :: rest)
      = .ok (n + (argumentText parts).length) := by
  induction parts generalizing n with
  | nil => rfl
  | cons p parts ih =>
    obtain ⟨hp, hparts⟩ := List.forall_mem_cons.1 h
    have htext : argumentText (p :: parts) = p.text ++ argumentText parts := rfl
    rw [htext, List.append_assoc, List.length_append, ← Nat.add_assoc, ← ih hparts]
    cases p with
    | bare c =>
      obtain ⟨hleft, hright, hquote⟩ := hp
      exact argumentLength_bare hleft hright hquote n _
    | quoted q items =>
      obtain ⟨hq, hitems⟩ := hp
      rw [Stretch.text, List.cons_append, argumentLength_open hq, List.append_assoc,
        List.singleton_append, argumentLength_items hq.ne_escape hitems, List.length_cons,
        List.length_append, List.length_singleton]
      congr 1
      omega

/-- A filter call with parentheses is taken off the front of whatever follows. -/
theorem filter_argument {name : Text} {parts : List Stretch} (hname : IsIdent name)
    (hparts : ∀ p ∈ parts, p.Valid) (body rest : Text) :
    filter body (name ++ '(' :: (argumentText parts ++ ')' :: rest))
      = .ok (⟨name, some (argumentText parts)⟩, rest) := by
  have hident : ident? (name ++ '(' :: (argumentText parts ++ ')' :: rest))
      = some (name, '(' :: (argumentText parts ++ ')' :: rest)) := by
    refine ident?_append hname fun c hc => ?_
    cases hc
    decide
  rw [filter, hident]
  simp only
  rw [argumentLength_parts hparts]
  simp

/-- A filter call without parentheses is its name. -/
theorem filter_name {s name rest : Text} (hident : ident? s = some (name, rest))
    (hopen : ∀ c ∈ rest.head?, c ≠ '(') (body : Text) :
    filter body s = .ok (⟨name, none⟩, rest) := by
  rw [filter, hident]
  split
  · contradiction
  · rename_i heq
    cases heq
    exact absurd rfl (hopen '(' rfl)
  · rename_i heq
    cases heq
    rfl

/-- A filter call is taken off the front of a tail. -/
theorem filter_text {t : CallTree} (h : t.Valid) (body : Text) {rest : Text}
    (hrest : IsTail rest) : filter body (t.text ++ rest) = .ok (t.call, rest) := by
  obtain ⟨name, arg⟩ := t
  cases arg with
  | none =>
    have hident : ident? (name ++ rest) = some (name, rest) := by
      refine ident?_append h.name fun c hc => ?_
      rcases hrest c hc with rfl | rfl <;> decide
    have hopen : ∀ c ∈ rest.head?, c ≠ '(' := by
      intro c hc
      rcases hrest c hc with rfl | rfl <;> decide
    have htext : (CallTree.mk name none).text = name := List.append_nil name
    rw [htext]
    exact filter_name hident hopen body
  | some parts =>
    have htext : (CallTree.mk name (some parts)).text ++ rest
        = name ++ '(' :: (argumentText parts ++ ')' :: rest) := by simp [CallTree.text]
    rw [htext]
    exact filter_argument h.name (h.arg parts rfl) body rest

/-- Behind a colon, a filter call is read, and then the next ones. -/
theorem filters_cons {body s rest : Text} {call : FilterCall}
    (h : filter body s = .ok (call, rest)) (done : List FilterCall) :
    filters body done (':' :: s) = filters body (call :: done) rest := by
  rw [filters]
  split
  · rename_i call' rest' heq
    cases heq.symm.trans h
    rfl
  · rename_i e heq
    cases heq.symm.trans h

/-- Without a colon, there are no more filter calls. -/
theorem filters_stop {s : Text} (hs : ∀ c ∈ s.head?, c ≠ ':') (body : Text)
    (done : List FilterCall) : filters body done s = .ok (done.reverse, s) := by
  rw [filters.eq_def]
  split
  · exact absurd rfl (hs ':' rfl)
  · rfl

/-- The text of filter calls in front of a tail is a tail. -/
theorem isTail_calls (calls : List CallTree) {rest : Text} (hrest : IsTail rest) :
    IsTail (callsText calls ++ rest) := by
  cases calls with
  | nil => exact hrest
  | cons c calls =>
    rintro d ⟨⟩
    exact .inl rfl

/-- Filter calls are taken off the front of what does not begin with another one. -/
theorem filters_text {calls : List CallTree} (h : ∀ c ∈ calls, c.Valid) (body : Text)
    (done : List FilterCall) {rest : Text} (hrest : ∀ c ∈ rest.head?, c = '|') :
    filters body done (callsText calls ++ rest)
      = .ok (done.reverse ++ calls.map CallTree.call, rest) := by
  induction calls generalizing done with
  | nil =>
    have hcolon : ∀ c ∈ rest.head?, c ≠ ':' := fun c hc => by rw [hrest c hc]; decide
    simpa [callsText] using filters_stop hcolon body done
  | cons c calls ih =>
    obtain ⟨hc, hcalls⟩ := List.forall_mem_cons.1 h
    have htail : IsTail (callsText calls ++ rest) :=
      isTail_calls calls fun d hd => .inr (hrest d hd)
    have htext : callsText (c :: calls) ++ rest = ':' :: (c.text ++ (callsText calls ++ rest)) := by
      simp [callsText]
    rw [htext, filters_cons (filter_text hc body htail), ih hcalls]
    simp

/-- A dot and a key, or nothing, are taken off the front of a tail. -/
theorem key_text {k : Option Text} (h : ∀ s ∈ k, IsKey s) (typeName : Text) {rest : Text}
    (hrest : IsTail rest) :
    key typeName (k.elim [] ('.' :: ·) ++ rest) = .ok (k.getD typeName, rest) := by
  cases k with
  | none =>
    have hdot : ∀ s, rest ≠ '.' :: s := by
      rintro s rfl
      rcases hrest '.' rfl with hc | hc <;> cases hc
    show key typeName rest = .ok (typeName, rest)
    rw [key.eq_def]
    split
    · exact absurd rfl (hdot _)
    · rfl
  | some s =>
    obtain ⟨hne, hchars⟩ := h s rfl
    have hstop : ∀ c ∈ rest.head?, ¬ isKeyChar c := by
      intro c hc
      rcases hrest c hc with rfl | rfl <;> decide
    obtain ⟨htake, hdrop⟩ := takeWhile_run hchars hstop
    show key typeName ('.' :: (s ++ rest)) = .ok (s, rest)
    rw [key, htake, hdrop]
    cases s with
    | nil => exact absurd rfl hne
    | cons c s => rfl

/-- A default literal goes to the end. -/
theorem ending_text (body : Text) (fallback : Option Text) :
    ending body (fallback.elim [] ("|default=".toList ++ ·)) = .ok fallback := by
  cases fallback with
  | none => rfl
  | some literal =>
    have hmark : Text.dropMark? "default=".toList ("default=".toList ++ literal) = some literal :=
      Text.dropMark?_eq_some_iff.2 rfl
    show ending body ('|' :: ("default=".toList ++ literal)) = .ok (some literal)
    rw [ending, hmark]

/-! ## Completeness -/

/-- A variable is what the stages of reading it yield. -/
theorem parseVariable_of_stages {body s s₁ s₂ s₃ : Text} {v : Variable}
    (hident : ident? s = some (v.typeName, s₁)) (hkey : key v.typeName s₁ = .ok (v.key, s₂))
    (hfilters : filters body [] s₂ = .ok (v.filters, s₃))
    (hending : ending body s₃ = .ok v.fallback) : parseVariable body s = .ok v := by
  unfold parseVariable
  rw [hident]
  show (key v.typeName s₁ >>= _) = _
  rw [hkey]
  show (filters body [] s₂ >>= _) = _
  rw [hfilters]
  show (ending body s₃ >>= _) = _
  rw [hending]
  rfl

/-- A default literal begins with a bar. -/
theorem eq_bar_of_fallback {fallback : Option Text} {c : Char}
    (hc : c ∈ (fallback.elim [] ("|default=".toList ++ ·)).head?) : c = '|' := by
  cases fallback with
  | none => cases hc
  | some literal =>
    cases hc
    rfl

/-- The text of a tree is accepted, with the variable of the tree. -/
theorem parse_of_valid {t : VariableTree} (h : t.Valid) : parse t.text = .lookup t.variable := by
  obtain ⟨ends, hends⟩ : ∃ ends, t.fallback.elim [] ("|default=".toList ++ ·) = ends := ⟨_, rfl⟩
  have hbar : ∀ c ∈ ends.head?, c = '|' := fun c hc => eq_bar_of_fallback (hends ▸ hc)
  have htail : IsTail (callsText t.calls ++ ends) := isTail_calls _ fun c hc => .inr (hbar c hc)
  have hident : ident? (t.typeName ++ (t.key.elim [] ('.' :: ·) ++ (callsText t.calls ++ ends)))
      = some (t.typeName, t.key.elim [] ('.' :: ·) ++ (callsText t.calls ++ ends)) := by
    refine ident?_append h.typeName fun c hc => ?_
    -- Neither a dot nor a tail goes on with an identifier.
    cases hk : t.key with
    | none =>
      rw [hk] at hc
      rcases htail c hc with rfl | rfl <;> decide
    | some s =>
      rw [hk] at hc
      cases hc
      decide
  have htext : t.text
      = '$' :: (t.typeName ++ (t.key.elim [] ('.' :: ·) ++ (callsText t.calls ++ ends))) := by
    rw [← hends]
    simp [VariableTree.text]
  have hvariable : parseVariable t.text _ = .ok t.variable :=
    parseVariable_of_stages hident (key_text h.key t.typeName htail)
      (filters_text h.calls t.text [] hbar) (hends ▸ ending_text t.text t.fallback)
  rw [htext] at hvariable ⊢
  rw [parse, hvariable]

/-! ## One tree -/

/-- The items of a literal end at the first quote that they do not take with them, so that a text
begins with the items of only one literal. -/
theorem items_unique {q : Char} (hq : q ≠ '\\') {items items' : List QuotedItem}
    (h : ∀ i ∈ items, i.Valid q) (h' : ∀ i ∈ items', i.Valid q) {s s' : Text}
    (heq : items.flatMap QuotedItem.text ++ q :: s = items'.flatMap QuotedItem.text ++ q :: s') :
    items = items' ∧ s = s' := by
  induction items generalizing items' with
  | nil =>
    cases items' with
    | nil => exact ⟨rfl, (List.cons.inj heq).2⟩
    | cons i' items' =>
      have hi' := (List.forall_mem_cons.1 h').1
      cases i' with
      | plain c => exact absurd (List.cons.inj heq).1.symm hi'.1
      | escape c => exact absurd (List.cons.inj heq).1 hq
  | cons i items ih =>
    obtain ⟨hi, hitems⟩ := List.forall_mem_cons.1 h
    cases items' with
    | nil =>
      cases i with
      | plain c => exact absurd (List.cons.inj heq).1 hi.1
      | escape c => exact absurd (List.cons.inj heq).1.symm hq
    | cons i' items' =>
      obtain ⟨hi', hitems'⟩ := List.forall_mem_cons.1 h'
      rw [List.flatMap_cons, List.flatMap_cons, List.append_assoc, List.append_assoc] at heq
      cases i with
      | plain c =>
        cases i' with
        | plain c' =>
          obtain ⟨rfl, hrest⟩ := List.cons.inj heq
          obtain ⟨rfl, rfl⟩ := ih hitems hitems' hrest
          exact ⟨rfl, rfl⟩
        | escape c' => exact absurd (List.cons.inj heq).1 hi.2
      | escape c =>
        cases i' with
        | plain c' => exact absurd (List.cons.inj heq).1.symm hi'.2
        | escape c' =>
          obtain ⟨rfl, hrest⟩ := List.cons.inj (List.cons.inj heq).2
          obtain ⟨rfl, rfl⟩ := ih hitems hitems' hrest
          exact ⟨rfl, rfl⟩

/-- An argument has only one list of parts. -/
theorem parts_unique {parts parts' : List Stretch} (h : ∀ p ∈ parts, p.Valid)
    (h' : ∀ p ∈ parts', p.Valid) (heq : argumentText parts = argumentText parts') :
    parts = parts' := by
  have hne : ∀ (p : Stretch) (s : Text), p.text ++ s ≠ [] := by
    rintro (c | ⟨q, items⟩) s hnil <;> cases hnil
  induction parts generalizing parts' with
  | nil =>
    cases parts' with
    | nil => rfl
    | cons p' parts' => exact absurd heq.symm (hne p' _)
  | cons p parts ih =>
    obtain ⟨hp, hparts⟩ := List.forall_mem_cons.1 h
    cases parts' with
    | nil => exact absurd heq (hne p _)
    | cons p' parts' =>
      obtain ⟨hp', hparts'⟩ := List.forall_mem_cons.1 h'
      have heq : p.text ++ argumentText parts = p'.text ++ argumentText parts' := heq
      cases p with
      | bare c =>
        cases p' with
        | bare c' =>
          obtain ⟨rfl, hrest⟩ := List.cons.inj heq
          rw [ih hparts hparts' hrest]
        | quoted q' items' =>
          obtain ⟨rfl, -⟩ := List.cons.inj heq
          exact absurd hp'.1 hp.2.2
      | quoted q items =>
        cases p' with
        | bare c' =>
          obtain ⟨rfl, -⟩ := List.cons.inj heq
          exact absurd hp.1 hp'.2.2
        | quoted q' items' =>
          rw [Stretch.text, Stretch.text, List.cons_append, List.cons_append, List.append_assoc,
            List.append_assoc] at heq
          obtain ⟨rfl, hrest⟩ := List.cons.inj heq
          obtain ⟨rfl, hparts_eq⟩ := items_unique hp.1.ne_escape hp.2 hp'.2 hrest
          rw [ih hparts hparts' hparts_eq]

/-- A filter call has only one tree. -/
theorem call_unique {t t' : CallTree} (h : t.Valid) (h' : t'.Valid) (heq : t.call = t'.call) :
    t = t' := by
  obtain ⟨name, arg⟩ := t
  obtain ⟨name', arg'⟩ := t'
  obtain ⟨rfl, harg⟩ : name = name' ∧ arg.map argumentText = arg'.map argumentText :=
    FilterCall.mk.inj heq
  cases arg with
  | none =>
    cases arg' with
    | none => rfl
    | some parts' => cases harg
  | some parts =>
    cases arg' with
    | none => cases harg
    | some parts' =>
      rw [parts_unique (h.arg parts rfl) (h'.arg parts' rfl) (Option.some.inj harg)]

/-- Filter calls have only one list of trees. -/
theorem calls_unique {calls calls' : List CallTree} (h : ∀ c ∈ calls, c.Valid)
    (h' : ∀ c ∈ calls', c.Valid) (heq : calls.map CallTree.call = calls'.map CallTree.call) :
    calls = calls' := by
  induction calls generalizing calls' with
  | nil => exact (List.map_eq_nil_iff.1 heq.symm).symm
  | cons c calls ih =>
    obtain ⟨c', calls', rfl, hc, hcalls⟩ := List.map_eq_cons_iff.1 heq.symm
    obtain ⟨hvalid, hvalids⟩ := List.forall_mem_cons.1 h
    obtain ⟨hvalid', hvalids'⟩ := List.forall_mem_cons.1 h'
    rw [call_unique hvalid hvalid' hc.symm, ih hvalids hvalids' hcalls.symm]

/-- A body has only one tree. -/
theorem tree_unique {t t' : VariableTree} (h : t.Valid) (h' : t'.Valid) (heq : t.text = t'.text) :
    t = t' := by
  -- The parser finds the same variable, so that the trees differ in their keys at most.
  have hparse : parse t.text = parse t'.text := congrArg parse heq
  rw [parse_of_valid h, parse_of_valid h'] at hparse
  obtain ⟨htype, -, hmap, hfallback⟩ := Variable.mk.inj (Body.lookup.inj hparse)
  have hcalls := calls_unique h.calls h'.calls hmap
  obtain ⟨typeName, k, calls, fallback⟩ := t
  obtain ⟨typeName', k', calls', fallback'⟩ := t'
  simp only at htype hcalls hfallback
  subst htype hcalls hfallback
  have hkey : k.elim [] ('.' :: ·) = k'.elim [] ('.' :: ·) := by
    simpa [VariableTree.text] using heq
  cases k <;> cases k' <;> cases hkey <;> rfl

/-! ## The grammar -/

/-- Identifiers begin with the ASCII letters and the underscore. -/
theorem isIdentStart_iff {c : Char} :
    isIdentStart c ↔ ('A' ≤ c ∧ c ≤ 'Z') ∨ ('a' ≤ c ∧ c ≤ 'z') ∨ c = '_' := by
  have hdef : isIdentStart c
      = (decide ('A' ≤ c ∧ c ≤ 'Z') || decide ('a' ≤ c) && decide (c ≤ 'z') || decide (c = '_')) :=
    rfl
  simp [hdef, or_assoc]

/-- Identifiers go on with these characters, the ASCII digits, and the hyphen. -/
theorem isIdentChar_iff {c : Char} :
    isIdentChar c ↔ isIdentStart c ∨ ('0' ≤ c ∧ c ≤ '9') ∨ c = '-' := by
  simp only [isIdentStart, isIdentChar, Char.isAlphanum, Char.isDigit]
  simp [Char.le_def]
  tauto

/-- Keys have no blanks and no marks that stand behind a key or around an argument. -/
theorem isKeyChar_iff {c : Char} :
    isKeyChar c ↔ c ∉ [':', '|', '(', ')', '}'] ∧ ¬ isBlank c := by
  simp [isKeyChar, and_assoc]

/-- A slash and at least one more character. -/
def IsFileReference (body : Text) : Prop :=
  ∃ c path, body = '/' :: c :: path

/-- The parser accepts file references, and resolves the escapes of their braces. -/
theorem parse_eq_file_iff {body path : Text} :
    parse body = .file path ↔
      IsFileReference body ∧ Text.Replaced ['\\', '}'] ['}'] body path := by
  have hreplaced : Text.replace ['\\', '}'] ['}'] body = path ↔
      Text.Replaced ['\\', '}'] ['}'] body path :=
    Text.replace_eq_iff (List.cons_ne_nil _ _)
  constructor
  · intro h
    unfold parse at h
    split at h
    · cases h
    · cases h
    · rename_i s hs
      obtain ⟨c, s, rfl⟩ := List.exists_cons_of_ne_nil hs
      exact ⟨⟨c, s, rfl⟩, hreplaced.1 (Body.file.inj h)⟩
    · split at h <;> cases h
    · cases h
  · rintro ⟨⟨c, s, rfl⟩, h⟩
    show Body.file (Text.replace ['\\', '}'] ['}'] ('/' :: c :: s)) = .file path
    rw [hreplaced.2 h]

/-- The parser accepts as variables the bodies that have a tree. -/
theorem parse_eq_lookup_iff {body : Text} {v : Variable} :
    parse body = .lookup v ↔
      ∃ t : VariableTree, t.Valid ∧ t.text = body ∧ t.variable = v := by
  constructor
  · exact exists_tree_of_parse
  · rintro ⟨t, ht, rfl, rfl⟩
    exact parse_of_valid ht

/-- The parser accepts file references, with the escapes of their braces resolved, and bodies that
have a tree, with the variable of the tree. Everything else is malformed, and no body has two
trees. The first three parts spell out the characters of identifiers and keys. -/
theorem parse_iff_grammar :
    (∀ c, isIdentStart c ↔ ('A' ≤ c ∧ c ≤ 'Z') ∨ ('a' ≤ c ∧ c ≤ 'z') ∨ c = '_') ∧
    (∀ c, isIdentChar c ↔ isIdentStart c ∨ ('0' ≤ c ∧ c ≤ '9') ∨ c = '-') ∧
    (∀ c, isKeyChar c ↔ c ∉ [':', '|', '(', ')', '}'] ∧ ¬ isBlank c) ∧
    ∀ body : Text,
      (∀ path, parse body = .file path ↔
        IsFileReference body ∧ Text.Replaced ['\\', '}'] ['}'] body path) ∧
      (∀ v, parse body = .lookup v ↔
        ∃ t : VariableTree, t.Valid ∧ t.text = body ∧ t.variable = v) ∧
      ((∃ e, parse body = .malformed e) ↔
        ¬ IsFileReference body ∧ ¬ ∃ t : VariableTree, t.Valid ∧ t.text = body) ∧
      {t : VariableTree | t.Valid ∧ t.text = body}.Subsingleton := by
  refine ⟨fun _ => isIdentStart_iff, fun _ => isIdentChar_iff, fun _ => isKeyChar_iff,
    fun body => ⟨fun _ => parse_eq_file_iff, fun _ => parse_eq_lookup_iff, ?_, ?_⟩⟩
  · constructor
    · rintro ⟨e, he⟩
      constructor
      · intro hfile
        obtain ⟨path, hpath⟩ := Text.exists_replaced (List.cons_ne_nil '\\' ['}']) ['}'] body
        cases he.symm.trans (parse_eq_file_iff.2 ⟨hfile, hpath⟩)
      · rintro ⟨t, ht, rfl⟩
        cases he.symm.trans (parse_of_valid ht)
    · rintro ⟨hfile, htree⟩
      cases hparse : parse body with
      | file path => exact absurd (parse_eq_file_iff.1 hparse).1 hfile
      | lookup v =>
        obtain ⟨t, ht, htext, -⟩ := exists_tree_of_parse hparse
        exact absurd ⟨t, ht, htext⟩ htree
      | malformed e => exact ⟨e, rfl⟩
  · rintro t ⟨ht, htext⟩ t' ⟨ht', htext'⟩
    exact tree_unique ht ht' (htext.trans htext'.symm)

end Stencil.Body
