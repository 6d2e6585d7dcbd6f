import Stencil.Proofs.Template.Agreement
import Stencil.Proofs.Template.Placeholders

/-!
# Where default literals end

A default literal is to run from its mark to the next closing braces. The scan has to find the mark
for that, and it does if it is outside of quotes and parentheses there, as the grammar is. Both
agree as long as backslashes are inside of quotes, where they mean the same to both:
`literal_ends_at_braces` says that the literal then ends at the next closing braces. Elsewhere a
backslash is a character to the grammar and takes the next one with it for the scan, which may then
miss a parenthesis or the mark, and a literal may have closing braces in it
(`not_literal_without_braces`).
-/

namespace Stencil

open Token (closeLength? Closes)

/-- The braces behind a text are the first ones that are found only if there are none in the text
with the first of them. -/
theorem Token.no_braces_of_bracesLength? {n : Nat} {s t : Text}
    (h : Token.bracesLength? n (s ++ '}' :: '}' :: t) = some (n + s.length + 2)) :
    ¬ ['}', '}'] <:+: s ++ ['}'] := by
  induction s generalizing n with
  | nil => decide
  | cons c s ih =>
    rw [List.cons_append, Token.pair_infix_cons_iff, ← Token.head?_append_braces s t]
    by_cases hc : c = '}' ∧ (s ++ '}' :: '}' :: t).head? = some '}'
    · -- Braces that begin here are found before those behind the text.
      obtain ⟨rfl, hhead⟩ := hc
      obtain ⟨rest, hrest⟩ := List.head?_eq_some_iff.1 hhead
      rw [List.cons_append, hrest, Token.bracesLength?, List.length_cons] at h
      have := Option.some.inj h
      omega
    · rw [List.cons_append, Token.bracesLength?_cons hc] at h
      have hlength : n + (c :: s).length + 2 = n + 1 + s.length + 2 := by
        rw [List.length_cons]
        omega
      rw [hlength] at h
      exact not_or.2 ⟨hc, ih h⟩

namespace Body

/-- In the body of a token, a default literal has no closing braces, and ends in no brace, if
backslashes before it are inside of quotes. -/
theorem no_braces_of_closes {tree : VariableTree} (h : tree.Valid)
    (hkey : '\\' ∉ tree.variable.key)
    (harg : ∀ c ∈ tree.calls, ∀ arg ∈ c.call.arg, some '\\' ∉ exposed none arg) {literal : Text}
    (hliteral : tree.fallback = some literal) (hclose : Closes tree.text) :
    ∃ head, tree.text = head ++ (Token.defaultMark ++ literal) ∧
      ¬ ['}', '}'] <:+: literal ++ ['}'] := by
  have hpasses := (passesTo_inert (h.inert hkey)).append (passesTo_calls h.calls harg)
  obtain ⟨head, hhead⟩ : ∃ head, '$' :: (tree.typeName ++ tree.key.elim [] ('.' :: ·))
      ++ callsText tree.calls = head := ⟨_, rfl⟩
  have htext : tree.text = head ++ (Token.defaultMark ++ literal) := by
    rw [VariableTree.text, hliteral, ← hhead]
    rfl
  rw [hhead] at hpasses
  have hfound := hclose []
  rw [bodyLength?_text, htext, List.append_assoc, List.append_assoc, List.length_append,
    List.length_append] at hfound
  refine ⟨head, htext, ?_⟩
  rcases hpasses 0 (Token.defaultMark ++ (literal ++ '}' :: '}' :: [])) with
    hpass | ⟨-, m, hm, hend⟩
  · -- The scan goes on behind the mark with the search for braces.
    have hlength : head.length + (Token.defaultMark.length + literal.length) + 2
        = 0 + head.length + Token.defaultMark.length + literal.length + 2 := by
      omega
    rw [hpass, Token.closeLength?_default, hlength] at hfound
    exact Token.no_braces_of_bracesLength? hfound
  · -- A token that ends before its default literal does not end behind it.
    rw [hend] at hfound
    have := Option.some.inj hfound
    omega

end Body

/-- In the token of a variable with a default literal, backslashes before the literal may stand
inside of quotes only. The literal then begins behind its mark and ends at the next closing braces,
which are those of the token: there are none in it. -/
theorem Template.literal_ends_at_braces {text : Text} {p : Placeholder}
    (hp : p ∈ (Template.parse text).placeholders) {v : Variable} (hv : p.body = .lookup v)
    (hkey : '\\' ∉ v.key)
    (harg : ∀ call ∈ v.filters, ∀ arg ∈ call.arg, some '\\' ∉ Body.exposed none arg)
    {literal : Text} (hliteral : v.fallback = some literal) :
    ¬ ['}', '}'] <:+: literal ∧
      ∃ head, p.raw = Token.braced (head ++ (Token.defaultMark ++ literal)) ∧
        ¬ ['}', '}'] <:+: literal ++ ['}'] := by
  obtain ⟨hpiece, hparse⟩ := Template.mem_placeholders.1 hp
  obtain ⟨inner, hraw, hclose⟩ := Token.closes_of_mem_pieces hpiece
  have hbody : Body.parse inner = .lookup v := by
    rw [hparse, hraw, Placeholder.parse] at hv
    rwa [← Placeholder.inner_braced inner]
  obtain ⟨tree, htree, rfl, rfl⟩ := Body.exists_tree_of_parse hbody
  obtain ⟨head, hhead, hbraces⟩ := Body.no_braces_of_closes htree hkey
    (fun c hc => harg _ (List.mem_map_of_mem hc)) hliteral hclose
  refine ⟨fun hin => ?_, head, hhead ▸ hraw, hbraces⟩
  exact hbraces (hin.trans (List.prefix_append literal ['}']).isInfix)

/-- A body with backslashes, a parenthesis and the mark of a default literal in quotes, and with a
quote, a parenthesis and a backslash in its default literal. -/
def quotedMarkBody : Text :=
  "$x:suffix('\\'(|default=\\\\')|default=it's \\( \x7d.".toList

/-- The variable of `quotedMarkBody`. -/
def quotedMarkVariable : Variable :=
  ⟨"x".toList, "x".toList, [⟨"suffix".toList, some "'\\'(|default=\\\\'".toList⟩],
    some "it's \\( \x7d.".toList⟩

/-- Only the second mark of `quotedMarkBody` begins a literal, and the braces behind it end it. -/
theorem Template.literal_ends_at_braces_quoted_mark :
    ⟨Token.braced quotedMarkBody, .lookup quotedMarkVariable⟩
        ∈ (Template.parse (Token.braced quotedMarkBody)).placeholders ∧
      '\\' ∉ quotedMarkVariable.key ∧
      (∀ call ∈ quotedMarkVariable.filters, ∀ arg ∈ call.arg,
        some '\\' ∉ Body.exposed none arg) ∧
      ¬ ['}', '}'] <:+: "it's \\( \x7d.".toList := by
  have hclose : Closes quotedMarkBody := Token.closes_of_found (by decide +kernel)
  have hbody : Body.parse quotedMarkBody = .lookup quotedMarkVariable := by decide +kernel
  have hp : ⟨Token.braced quotedMarkBody, .lookup quotedMarkVariable⟩
      ∈ (Template.parse (Token.braced quotedMarkBody)).placeholders := by
    rw [(Template.parse_of_closes hclose).2, Placeholder.parse, Placeholder.inner_braced, hbody]
    exact List.mem_singleton_self _
  have hkey : '\\' ∉ quotedMarkVariable.key := by decide
  have harg : ∀ call ∈ quotedMarkVariable.filters, ∀ arg ∈ call.arg,
      some '\\' ∉ Body.exposed none arg := by decide +kernel
  exact ⟨hp, hkey, harg, (Template.literal_ends_at_braces hp rfl hkey harg rfl).1⟩

/-- A body with a backslash before the parenthesis that closes an argument. -/
def hiddenParenthesisBody : Text :=
  "$dir:suffix(\\)|default=it's\x7d\x7d and it isn't \x7b\x7b$y".toList

/-- Default literals do not always end at the next closing braces: to the scan, the backslash of
`hiddenParenthesisBody` hides the parenthesis, so that the quotes of the text hide the braces. -/
theorem Template.not_literal_without_braces :
    ¬ ∀ (text : Text) (p : Placeholder), p ∈ (Template.parse text).placeholders →
      ∀ v, p.body = .lookup v → ∀ literal, v.fallback = some literal →
        ¬ ['}', '}'] <:+: literal := by
  intro h
  have hclose : Closes hiddenParenthesisBody := Token.closes_of_found (by decide +kernel)
  have hbody : Body.parse hiddenParenthesisBody = .lookup ⟨"dir".toList, "dir".toList,
      [⟨"suffix".toList, some ['\\']⟩],
      some "it's\x7d\x7d and it isn't \x7b\x7b$y".toList⟩ := by decide +kernel
  have hp : Placeholder.parse (Token.braced hiddenParenthesisBody)
      ∈ (Template.parse (Token.braced hiddenParenthesisBody)).placeholders := by
    rw [(Template.parse_of_closes hclose).2]
    exact List.mem_singleton_self _
  have hlookup : (Placeholder.parse (Token.braced hiddenParenthesisBody)).body = _ :=
    (congrArg Body.parse (Placeholder.inner_braced _)).trans hbody
  exact h _ _ hp _ hlookup _ rfl (by decide +kernel)

end Stencil
