import Stencil.Proofs.Template.First
import Stencil.Proofs.Template.Grammar

/-!
# The scan agrees with the grammar

Where a token ends is found by a scan that knows quotes, parentheses, and the mark of a default
literal, but no grammar. `first_token_of_parse` says that the scan stops exactly behind every body
that the grammar accepts as a variable and that is `SelfDelimiting`, whatever follows, so that the
template has the parts of that variable.

The proof follows the tree of the body. The scan passes over each part of the tree and is then in
the state in which it was before: outside of quotes, and outside of parentheses or, within an
argument, inside of one.
-/

namespace Stencil

open Token (closeLength? Closes)

/-! ## Bodies that delimit themselves -/

/-- What an argument shows outside of its quoted literals: each character there, and `none` in the
place of each character of a literal. `quote` is the quote that is open. -/
def Body.exposed (quote : Option Char) : Text → List (Option Char)
  | [] => []
  | c :: s =>
    match quote with
    | some q =>
      if c = '\\' then
        match s with
        | [] => [none]
        | _ :: s => none :: none :: exposed quote s
      else none :: exposed (if c = q then none else quote) s
    | none =>
      if c = '"' ∨ c = '\'' then none :: exposed (some c) s else some c :: exposed none s

/-- Nothing in a variable hides the braces that close its token or stands for them. Names of types
and filters have no place here, since they hold neither backslashes nor braces. -/
structure Variable.SelfDelimiting (v : Variable) : Prop where
  key_escape : '\\' ∉ v.key
  /-- Backslashes of an argument are inside of quotes. -/
  arg_escape : ∀ call ∈ v.filters, ∀ arg ∈ call.arg, some '\\' ∉ Body.exposed none arg
  /-- Closing braces of an argument are inside of quotes. -/
  arg_braces : ∀ call ∈ v.filters, ∀ arg ∈ call.arg,
    ¬ [some '}', some '}'] <:+: Body.exposed none arg
  fallback_braces : ∀ literal ∈ v.fallback, ¬ ['}', '}'] <:+: literal
  fallback_end : ∀ literal ∈ v.fallback, literal.getLast? ≠ some '}'

namespace Body

/-! ## What arguments show -/

/-- Outside of quotes, a character shows that is no quote. -/
theorem exposed_bare {c : Char} (hc : ¬ IsQuote c) (s : Text) :
    exposed none (c :: s) = some c :: exposed none s := by
  rw [exposed]
  exact if_neg hc

/-- A quote opens a literal. -/
theorem exposed_open {q : Char} (hq : IsQuote q) (s : Text) :
    exposed none (q :: s) = none :: exposed (some q) s := by
  rw [exposed]
  exact if_pos hq

/-- The quote of a literal closes it, and other characters belong to it. -/
theorem exposed_quoted {q c : Char} (hc : c ≠ '\\') (s : Text) :
    exposed (some q) (c :: s) = none :: exposed (if c = q then none else some q) s := by
  rw [exposed.eq_def]
  exact if_neg hc

/-- Nothing shows of the items of a literal. -/
theorem exposed_items {q : Char} {items : List QuotedItem} (h : ∀ i ∈ items, i.Valid q) (s : Text) :
    exposed (some q) (items.flatMap QuotedItem.text ++ s)
      = (items.flatMap QuotedItem.text).map (fun _ => none) ++ exposed (some q) s := by
  induction items with
  | nil => rfl
  | cons i items ih =>
    obtain ⟨hi, hitems⟩ := List.forall_mem_cons.1 h
    rw [List.flatMap_cons, List.append_assoc, List.map_append, List.append_assoc, ← ih hitems]
    cases i with
    | plain c => exact (exposed_quoted hi.2 _).trans (by rw [if_neg hi.1]; rfl)
    | escape c => rfl

/-- A part of an argument shows its character if it is bare, and nothing if it is quoted. -/
def Stretch.exposed : Stretch → List (Option Char)
  | bare c => [some c]
  | quoted q items => (quoted q items).text.map fun _ => none

/-- An argument shows what its parts show. -/
theorem exposed_argumentText {parts : List Stretch} (h : ∀ p ∈ parts, p.Valid) :
    exposed none (argumentText parts) = parts.flatMap Stretch.exposed := by
  induction parts with
  | nil => rfl
  | cons p parts ih =>
    obtain ⟨hp, hparts⟩ := List.forall_mem_cons.1 h
    rw [List.flatMap_cons, ← ih hparts, argumentText, List.flatMap_cons]
    cases p with
    | bare c => exact exposed_bare hp.2.2 _
    | quoted q items =>
      obtain ⟨hq, hitems⟩ := hp
      rw [Stretch.text, List.cons_append, List.append_assoc, exposed_open hq, exposed_items hitems,
        List.singleton_append, exposed_quoted hq.ne_escape, if_pos rfl]
      simp [Stretch.exposed, Stretch.text, argumentText]

/-! ## What the scan passes over -/

/-- A character without a meaning outside of parentheses. -/
def IsInert (c : Char) : Prop :=
  c ≠ '\\' ∧ c ≠ '}' ∧ c ≠ '(' ∧ c ≠ ')' ∧ c ≠ '|'

/-- Outside of parentheses, the scan passes over text without a meaning. -/
theorem closeLength?_inert {s : Text} (h : ∀ c ∈ s, IsInert c) (n : Nat) (t : Text) :
    closeLength? true 0 none n (s ++ t) = closeLength? true 0 none (n + s.length) t := by
  induction s generalizing n with
  | nil => rfl
  | cons c s ih =>
    obtain ⟨⟨hesc, hbrace, hleft, hright, hbar⟩, hs⟩ := List.forall_mem_cons.1 h
    -- The mark of a default literal begins with a bar.
    have hmark : Text.dropMark? Token.defaultMark (c :: (s ++ t)) = none := by
      rw [Token.defaultMark_eq, Text.dropMark?, if_neg hbar.symm]
    rw [List.cons_append, Token.closeLength?_plain hesc (fun hc => hbrace hc.1) hleft hright
      (fun hq => absurd hq.2 (Nat.lt_irrefl 0)) fun _ => hmark, ih hs, List.length_cons]
    congr 1
    omega

/-- Identifiers have no meaning for the scan. -/
theorem IsIdent.inert {s : Text} (h : IsIdent s) : ∀ c ∈ s, IsInert c := by
  obtain ⟨c, t, rfl, hc, ht⟩ := h
  have hstart : ∀ c, isIdentStart c → IsInert c := by
    intro c hc
    refine ⟨?_, ?_, ?_, ?_, ?_⟩ <;> rintro rfl <;> exact absurd hc (by decide)
  have hchar : ∀ c, isIdentChar c → IsInert c := by
    intro c hc
    refine ⟨?_, ?_, ?_, ?_, ?_⟩ <;> rintro rfl <;> exact absurd hc (by decide)
  exact List.forall_mem_cons.2 ⟨hstart c hc, fun d hd => hchar d (ht d hd)⟩

/-- Keys have no meaning for the scan unless they hold a backslash. -/
theorem IsKey.inert {s : Text} (h : IsKey s) (hesc : '\\' ∉ s) : ∀ c ∈ s, IsInert c := by
  intro c hc
  have hkey := h.2 c hc
  refine ⟨fun hb => hesc (hb ▸ hc), ?_, ?_, ?_, ?_⟩ <;> rintro rfl <;> simp [isKeyChar] at hkey

/-- The scan passes over the items of a literal. -/
theorem closeLength?_items {q : Char} {items : List QuotedItem} (h : ∀ i ∈ items, i.Valid q)
    (depth n : Nat) (t : Text) :
    closeLength? true depth (some q) n (items.flatMap QuotedItem.text ++ t)
      = closeLength? true depth (some q) (n + (items.flatMap QuotedItem.text).length) t := by
  induction items generalizing n with
  | nil => rfl
  | cons i items ih =>
    obtain ⟨hi, hitems⟩ := List.forall_mem_cons.1 h
    rw [List.flatMap_cons, List.append_assoc, List.length_append, ← Nat.add_assoc, ← ih hitems]
    cases i with
    | plain c => exact (Token.closeLength?_quoted hi.2).trans (by rw [if_neg hi.1]; rfl)
    | escape c => exact Token.closeLength?_escape c _

/-- Inside of parentheses, the scan passes over a quoted literal. -/
theorem closeLength?_literal {q : Char} {items : List QuotedItem}
    (h : (Stretch.quoted q items).Valid) (n : Nat) (t : Text) :
    closeLength? true 1 none n ((Stretch.quoted q items).text ++ t)
      = closeLength? true 1 none (n + (Stretch.quoted q items).text.length) t := by
  obtain ⟨hq, hitems⟩ := h
  rw [Stretch.text, List.cons_append, Token.closeLength?_openQuote hq Nat.one_pos,
    List.append_assoc, closeLength?_items hitems, List.singleton_append,
    Token.closeLength?_quoted hq.ne_escape, if_pos rfl, List.length_cons, List.length_append,
    List.length_singleton]
  congr 1
  omega

/-- Where an argument goes on with a closing brace, the next part is this brace. -/
theorem eq_brace_of_head? {parts : List Stretch} (h : ∀ p ∈ parts, p.Valid) {t : Text}
    (hhead : (argumentText parts ++ ')' :: t).head? = some '}') :
    ∃ parts', parts = .bare '}' :: parts' := by
  cases parts with
  | nil => cases hhead
  | cons p parts =>
    cases p with
    | bare c =>
      obtain rfl : c = '}' := Option.some.inj hhead
      exact ⟨parts, rfl⟩
    | quoted q items =>
      obtain rfl : q = '}' := Option.some.inj hhead
      exact absurd (h _ List.mem_cons_self).1 (by rintro (hq | hq) <;> cases hq)

/-- With `depth` open parentheses, the scan passes over a text, whatever follows it, and has
`depth'` of them open behind it. It ends within the text only if the text is blocked. -/
def PassesTo (depth depth' : Nat) (blocked : Prop) (u : Text) : Prop :=
  ∀ n t, closeLength? true depth none n (u ++ t) = closeLength? true depth' none (n + u.length) t ∨
    blocked ∧ ∃ m ≤ n + u.length, closeLength? true depth none n (u ++ t) = some m

/-- The scan passes over two texts if it passes over the one and then over the other. -/
theorem PassesTo.append {depth depth' depth'' : Nat} {blocked : Prop} {u w : Text}
    (hu : PassesTo depth depth' blocked u) (hw : PassesTo depth' depth'' blocked w) :
    PassesTo depth depth'' blocked (u ++ w) := by
  intro n t
  rw [List.append_assoc, List.length_append, ← Nat.add_assoc]
  rcases hu n (w ++ t) with hpass | ⟨hblocked, m, hm, hend⟩
  · rw [hpass]
    exact hw (n + u.length) t
  · exact .inr ⟨hblocked, m, Nat.le_trans hm (Nat.le_add_right ..), hend⟩

/-- A text that is blocked for one reason is so for a weaker one. -/
theorem PassesTo.mono {depth depth' : Nat} {blocked blocked' : Prop} {u : Text}
    (h : PassesTo depth depth' blocked u) (himp : blocked → blocked') :
    PassesTo depth depth' blocked' u :=
  fun n t => (h n t).imp_right fun ⟨hblocked, hend⟩ => ⟨himp hblocked, hend⟩

/-- The scan passes over a text that is not blocked. -/
theorem PassesTo.eq {depth depth' : Nat} {blocked : Prop} {u : Text}
    (h : PassesTo depth depth' blocked u) (hblocked : ¬ blocked) (n : Nat) (t : Text) :
    closeLength? true depth none n (u ++ t) = closeLength? true depth' none (n + u.length) t :=
  (h n t).resolve_right fun hend => hblocked hend.1

/-- Nothing blocks text without a meaning. -/
theorem passesTo_inert {blocked : Prop} {s : Text} (h : ∀ c ∈ s, IsInert c) :
    PassesTo 0 0 blocked s :=
  fun n t => .inl (closeLength?_inert h n t)

/-- An argument without backslashes outside of quotes is blocked only if it shows closing braces.
Behind its parenthesis, the scan is outside of parentheses again. -/
theorem passesTo_argument {parts : List Stretch} (h : ∀ p ∈ parts, p.Valid)
    (hesc : some '\\' ∉ parts.flatMap Stretch.exposed) :
    PassesTo 1 0 ([some '}', some '}'] <:+: parts.flatMap Stretch.exposed)
      (argumentText parts ++ [')']) := by
  induction parts with
  | nil => exact fun n t => .inl (Token.closeLength?_right t)
  | cons p parts ih =>
    obtain ⟨hp, hparts⟩ := List.forall_mem_cons.1 h
    rw [List.flatMap_cons] at hesc ⊢
    have hrest := (ih hparts fun hmem => hesc (List.mem_append_right _ hmem)).mono
      fun hin => hin.trans (List.suffix_append p.exposed _).isInfix
    have htext : argumentText (p :: parts) ++ [')'] = p.text ++ (argumentText parts ++ [')']) :=
      List.append_assoc ..
    rw [htext]
    cases p with
    | bare c =>
      obtain ⟨hleft, hright, hquote⟩ := hp
      have hc : c ≠ '\\' := fun hc => hesc (List.mem_append_left _ (by simp [Stretch.exposed, hc]))
      intro n t
      have happend : argumentText parts ++ [')'] ++ t = argumentText parts ++ ')' :: t := by simp
      by_cases hclose : c = '}' ∧ (argumentText parts ++ ')' :: t).head? = some '}'
      · -- Closing braces here are both outside of quotes.
        obtain ⟨rfl, hhead⟩ := hclose
        obtain ⟨parts', rfl⟩ := eq_brace_of_head? hparts hhead
        refine .inr ⟨⟨[], parts'.flatMap Stretch.exposed, rfl⟩, n + 2, ?_, ?_⟩
        · simp [argumentText, Stretch.text]
        · exact Token.closeLength?_close _
      · have hplain : closeLength? true 1 none n (c :: (argumentText parts ++ [')'] ++ t))
            = closeLength? true 1 none (n + 1) (argumentText parts ++ [')'] ++ t) :=
          Token.closeLength?_plain hc (happend ▸ hclose) hleft hright (fun hq => hquote hq.1)
            (by simp)
        have hlength : n + (c :: (argumentText parts ++ [')'])).length
            = n + 1 + (argumentText parts ++ [')']).length := by
          rw [List.length_cons]
          omega
        have hstep := hrest (n + 1) t
        rw [← hplain, ← hlength] at hstep
        exact hstep
    | quoted q items =>
      exact PassesTo.append (fun n t => .inl (closeLength?_literal hp n t)) hrest

/-! ## Trees -/

/-- A filter call without backslashes outside of quotes is blocked only if its argument shows
closing braces. -/
theorem passesTo_call {tree : CallTree} (h : tree.Valid)
    (hesc : ∀ arg ∈ tree.call.arg, some '\\' ∉ exposed none arg) :
    PassesTo 0 0 (∃ arg ∈ tree.call.arg, [some '}', some '}'] <:+: exposed none arg)
      tree.text := by
  obtain ⟨name, arg⟩ := tree
  cases arg with
  | none =>
    have htext : (CallTree.mk name none).text = name := List.append_nil name
    rw [htext]
    exact passesTo_inert h.name.inert
  | some parts =>
    have hparts := h.arg parts rfl
    have hesc := hesc _ rfl
    rw [exposed_argumentText hparts] at hesc
    have hleft : ∀ blocked, PassesTo 0 1 blocked ['('] :=
      fun _ n t => .inl (Token.closeLength?_left t)
    refine (passesTo_inert h.name.inert).append ((hleft _).append
      ((passesTo_argument hparts hesc).mono fun hbraces => ?_))
    exact ⟨_, rfl, (exposed_argumentText hparts).symm ▸ hbraces⟩

/-- Filter calls without backslashes outside of quotes are blocked only if an argument shows closing
braces. -/
theorem passesTo_calls {calls : List CallTree} (h : ∀ c ∈ calls, c.Valid)
    (hesc : ∀ c ∈ calls, ∀ arg ∈ c.call.arg, some '\\' ∉ exposed none arg) :
    PassesTo 0 0 (∃ c ∈ calls, ∃ arg ∈ c.call.arg, [some '}', some '}'] <:+: exposed none arg)
      (callsText calls) := by
  induction calls with
  | nil => exact fun n t => .inl rfl
  | cons c calls ih =>
    obtain ⟨hc, hcalls⟩ := List.forall_mem_cons.1 h
    obtain ⟨hesc, hescs⟩ := List.forall_mem_cons.1 hesc
    have hcolon : ∀ d ∈ [':'], IsInert d := by simp [IsInert]
    refine ((passesTo_inert hcolon).append
      ((passesTo_call hc hesc).mono fun hbraces => ?_)).append
      ((ih hcalls hescs).mono fun ⟨d, hd, hbraces⟩ => ?_)
    · exact ⟨c, List.mem_cons_self, hbraces⟩
    · exact ⟨d, List.mem_cons_of_mem c hd, hbraces⟩

/-- The token of a tree is a variable token. -/
theorem bodyLength?_text (tree : VariableTree) (t : Text) :
    Token.bodyLength? (tree.text ++ t) = closeLength? true 0 none 0 (tree.text ++ t) :=
  rfl

/-- The type name and the key have no meaning for the scan unless the key holds a backslash. -/
theorem VariableTree.Valid.inert {tree : VariableTree} (h : tree.Valid)
    (hesc : '\\' ∉ tree.variable.key) :
    ∀ c ∈ '$' :: (tree.typeName ++ tree.key.elim [] ('.' :: ·)), IsInert c := by
  obtain ⟨typeName, key, calls, fallback⟩ := tree
  refine List.forall_mem_cons.2 ⟨by simp [IsInert], fun c hc => ?_⟩
  rcases List.mem_append.1 hc with hc | hc
  · exact h.typeName.inert c hc
  · cases key with
    | none => cases hc
    | some k =>
      rcases List.mem_cons.1 hc with rfl | hc
      · simp [IsInert]
      · exact (h.key k rfl).inert hesc c hc

/-- The scan stops behind the braces that follow a default literal, or nothing. -/
theorem closeLength?_fallback (fallback : Option Text)
    (hbraces : ∀ literal ∈ fallback, ¬ ['}', '}'] <:+: literal)
    (hend : ∀ literal ∈ fallback, literal.getLast? ≠ some '}') (n : Nat) (t : Text) :
    closeLength? true 0 none n (fallback.elim [] ("|default=".toList ++ ·) ++ '}' :: '}' :: t)
      = some (n + (fallback.elim [] ("|default=".toList ++ ·)).length + 2) := by
  cases fallback with
  | none => exact Token.closeLength?_close t
  | some literal =>
    have hmark : "|default=".toList = Token.defaultMark := rfl
    simp only [Option.elim_some]
    rw [hmark, List.append_assoc, Token.closeLength?_default,
      Token.bracesLength?_append (hbraces literal rfl) (hend literal rfl), List.length_append]
    congr 1
    omega

/-- The token of a variable that delimits itself closes at its own braces. -/
theorem closes_of_selfDelimiting {tree : VariableTree} (h : tree.Valid)
    (hv : tree.variable.SelfDelimiting) : Closes tree.text := by
  intro t
  have hcalls := passesTo_calls h.calls fun c hc => hv.arg_escape _ (List.mem_map_of_mem hc)
  have hbraces : ¬ ∃ c ∈ tree.calls, ∃ arg ∈ c.call.arg,
      [some '}', some '}'] <:+: exposed none arg := by
    rintro ⟨c, hc, arg, harg, hin⟩
    exact hv.arg_braces _ (List.mem_map_of_mem hc) arg harg hin
  have htext : tree.text = '$' :: (tree.typeName ++ tree.key.elim [] ('.' :: ·))
      ++ (callsText tree.calls ++ tree.fallback.elim [] ("|default=".toList ++ ·)) := by
    simp [VariableTree.text]
  -- The scan passes over the type name and the key, over the calls, and over the default literal.
  rw [bodyLength?_text, htext, List.append_assoc, closeLength?_inert (h.inert hv.key_escape),
    List.append_assoc, hcalls.eq hbraces,
    closeLength?_fallback tree.fallback hv.fallback_braces hv.fallback_end, List.length_append,
    List.length_append]
  congr 1
  omega

end Body

/-! ## The first token -/

/-- A body that is accepted as a variable and delimits itself is found as the first token of every
text in which it stands in braces, behind text without opening braces: the span is that of the whole
token, and the template has the variable with its parts. -/
theorem first_token_of_parse {body : Text} {v : Variable} (h : Body.parse body = .lookup v)
    (hv : v.SelfDelimiting) {before : Text} (hopen : ¬ ['{', '{'] <:+: before)
    (hend : before.getLast? ≠ some '{') (after : Text) :
    let text := before ++ '{' :: '{' :: (body ++ '}' :: '}' :: after)
    let span : Token.Span :=
      ⟨Text.byteLength before, Text.byteLength before + Text.byteLength body + 4⟩
    (Token.scan text).head? = some span ∧
      (Template.parse text).occurrences.head? = some ⟨span, 0⟩ ∧
      (Template.parse text).placeholders.head?
        = some ⟨'{' :: '{' :: (body ++ ['}', '}']), .lookup v⟩ := by
  obtain ⟨tree, htree, rfl, rfl⟩ := Body.exists_tree_of_parse h
  have hpieces := Token.pieces_eq_cons_of_closes hopen hend
    (Body.closes_of_selfDelimiting htree hv) after
  obtain ⟨hoccurrence, hplaceholder⟩ := Template.parse_of_pieces hpieces
  rw [Token.byteLength_braced, ← Nat.add_assoc] at hoccurrence
  refine ⟨?_, hoccurrence, ?_⟩
  · rw [Token.scan, hpieces, Token.spansFrom_cons, Token.byteLength_braced, ← Nat.add_assoc]
    rfl
  · rw [hplaceholder, Placeholder.parse, Placeholder.inner_braced, h]
    rfl

/-- A body with a quote in its key, with the mark of a default literal and closing braces in quotes,
with a single brace outside of them, and with a quote, a parenthesis, and a backslash in its default
literal. -/
def strayBody : Text :=
  "$x.it's:replace('|default=', \"\x7d\x7d\"):suffix(\x7dé)|default=Bob's (\\".toList

/-- The variable of `strayBody`. -/
def strayVariable : Variable :=
  ⟨"x".toList, "it's".toList, [⟨"replace".toList, some "'|default=', \"\x7d\x7d\"".toList⟩,
    ⟨"suffix".toList, some "\x7dé".toList⟩], some "Bob's (\\".toList⟩

/-- The stray marks of `strayBody` do not mislead the scan. -/
theorem first_token_of_stray_marks :
    Body.parse strayBody = .lookup strayVariable ∧ strayVariable.SelfDelimiting ∧
      ¬ ['{', '{'] <:+: "é \x7b ".toList ∧ "é \x7b ".toList.getLast? ≠ some '{' ∧
      (Token.scan ("é \x7b ".toList ++ '{' :: '{' :: (strayBody ++ '}' :: '}' :: ['}']))).head?
        = some ⟨5, 72⟩ := by
  have hparse : Body.parse strayBody = .lookup strayVariable := by decide +kernel
  have hv : strayVariable.SelfDelimiting :=
    ⟨by decide, by decide +kernel, by decide +kernel, by decide +kernel, by decide⟩
  have hopen : ¬ ['{', '{'] <:+: "é \x7b ".toList := by decide
  have hend : "é \x7b ".toList.getLast? ≠ some '{' := by decide
  have hbefore : Text.byteLength "é \x7b ".toList = 5 := by decide
  have hbody : Text.byteLength strayBody = 63 := by decide
  have hspan := (first_token_of_parse hparse hv hopen hend ['}']).1
  rw [hbefore, hbody] at hspan
  exact ⟨hparse, hv, hopen, hend, hspan⟩

end Stencil
