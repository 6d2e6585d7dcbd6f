import Stencil.Proofs.Template.Filling
import Stencil.Proofs.Template.Occurrences

/-!
# Parsing loses nothing

`Lossless` says what the placeholders and occurrences of a template have to do with its text: the
occurrences have the spans of the scan, each of them points to the placeholder whose token its span
cuts out of the text, and the placeholders are the different tokens in the order in which they first
appear. `parse_lossless` says that the template of every text is like this.

The two sides of an occurrence are told apart first. Its span is one of the scan
(`map_span_occurrencesFrom`), and its index is the place that its token has among the distinct ones
(`map_index_occurrencesFrom`). That the span cuts out just this token is proved once, along the scan
(`cuts_of_mem_occurrencesFrom`).
-/

namespace Stencil

/-! ## What a span cuts out -/

/-- A text is cut in one way where a number of bytes has passed. -/
theorem Text.append_inj_of_byteLength {a b a' b' : Text} (h : a ++ b = a' ++ b')
    (hlength : byteLength a = byteLength a') : a = a' ∧ b = b' := by
  induction a generalizing a' with
  | nil =>
    cases a' with
    | nil => exact ⟨rfl, h⟩
    | cons c a' =>
      have hc := c.utf8Size_pos
      rw [byteLength_nil, byteLength_cons] at hlength
      omega
  | cons c a ih =>
    cases a' with
    | nil =>
      have hc := c.utf8Size_pos
      rw [byteLength_nil, byteLength_cons] at hlength
      omega
    | cons d a' =>
      rw [List.cons_append, List.cons_append, List.cons.injEq] at h
      obtain ⟨rfl, h⟩ := h
      rw [byteLength_cons, byteLength_cons] at hlength
      obtain ⟨rfl, rfl⟩ := ih h (Nat.add_left_cancel hlength)
      exact ⟨rfl, rfl⟩

namespace Token

/-- The text that a span of byte positions cuts out of another one. -/
def Span.Cuts (span : Span) (text raw : Text) : Prop :=
  ∃ before after, text = before ++ raw ++ after ∧
    span = ⟨Text.byteLength before, Text.byteLength before + Text.byteLength raw⟩

/-- A span cuts out one text only. -/
theorem Span.Cuts.unique {span : Span} {text raw raw' : Text} (h : span.Cuts text raw)
    (h' : span.Cuts text raw') : raw = raw' := by
  obtain ⟨before, after, htext, hspan⟩ := h
  obtain ⟨before', after', htext', hspan'⟩ := h'
  obtain ⟨hstart, hstop⟩ := Span.mk.inj (hspan.symm.trans hspan')
  rw [htext, List.append_assoc, List.append_assoc] at htext'
  obtain ⟨rfl, hrest⟩ := Text.append_inj_of_byteLength htext' hstart
  exact (Text.append_inj_of_byteLength hrest (Nat.add_left_cancel hstop)).1

/-- Each span ends before the next ones start. -/
theorem pairwise_scanFrom (pos : Nat) (s : Text) :
    (scanFrom pos s).Pairwise fun a b => a.stop ≤ b.start := by
  induction s using scan_induction generalizing pos with
  | nil =>
    rw [scanFrom_nil]
    exact .nil
  | token inner after h ih =>
    rw [scanFrom_token h]
    exact .cons (fun span hspan => (bounds_of_mem_scanFrom hspan).1) (ih _)
  | unclosed body h ih =>
    rw [scanFrom_unclosed h]
    exact ih _
  | plain c s h ih =>
    rw [scanFrom_plain h]
    exact ih _

end Token

namespace Template

/-! ## The two sides of an occurrence -/

section

variable (raws : List Text) (pos : Nat) (s : Text)

/-- The occurrences have the spans of the scan. -/
theorem map_span_occurrencesFrom :
    (occurrencesFrom raws pos s).map Occurrence.span = Token.scanFrom pos s := by
  induction s using Token.scan_induction generalizing pos with
  | nil => rw [occurrencesFrom, Token.scanFrom_nil, List.zipWith_nil_left, List.map_nil]
  | token inner after h ih =>
    rw [occurrencesFrom_token raws pos h, List.map_cons, ih, Token.scanFrom_token h]
  | unclosed body h ih =>
    rw [occurrencesFrom_unclosed raws pos h, ih, Token.scanFrom_unclosed h]
    rfl
  | plain c s h ih => rw [occurrencesFrom_plain raws pos h, ih, Token.scanFrom_plain h]

/-- The occurrences have the places of the tokens. -/
theorem map_index_occurrencesFrom :
    (occurrencesFrom raws pos s).map Occurrence.index
      = (tokens (Token.pieces s)).map (List.idxOf · raws) := by
  induction s using Token.scan_induction generalizing pos with
  | nil =>
    rw [occurrencesFrom, Token.scanFrom_nil]
    simp [Token.pieces, Token.piecesFrom, Token.Piece.ofReverse, tokens, Token.Piece.token?]
  | token inner after h ih =>
    rw [occurrencesFrom_token raws pos h, List.map_cons, ih, tokens_pieces_token h, List.map_cons]
  | unclosed body h ih =>
    rw [occurrencesFrom_unclosed raws pos h, ih, tokens_pieces_unclosed h]
  | plain c s h ih => rw [occurrencesFrom_plain raws pos h, ih, tokens_pieces_plain h]

end

/-- An occurrence cuts out a token and has its place. -/
theorem cuts_of_mem_occurrencesFrom {raws : List Text} {pos : Nat} {s : Text} {o : Occurrence}
    (h : o ∈ occurrencesFrom raws pos s) :
    ∃ before raw after, s = before ++ raw ++ after ∧ raw ∈ tokens (Token.pieces s) ∧
      o = ⟨⟨pos + Text.byteLength before,
        pos + Text.byteLength before + Text.byteLength raw⟩, raws.idxOf raw⟩ := by
  induction s using Token.scan_induction generalizing pos with
  | nil =>
    rw [occurrencesFrom, Token.scanFrom_nil] at h
    cases h
  | token inner after hinner ih =>
    rw [occurrencesFrom_token raws pos hinner] at h
    rw [tokens_pieces_token hinner]
    rcases List.mem_cons.1 h with rfl | h
    · exact ⟨[], Token.braced inner, after, by simp [Token.braced], List.mem_cons_self, rfl⟩
    · obtain ⟨before, raw, after', rfl, hraw, rfl⟩ := ih h
      refine ⟨Token.braced inner ++ before, raw, after', by simp [Token.braced],
        List.mem_cons_of_mem _ hraw, ?_⟩
      rw [Text.byteLength_append, ← Nat.add_assoc]
  | unclosed body hbody ih =>
    rw [occurrencesFrom_unclosed raws pos hbody] at h
    obtain ⟨before, raw, after, rfl, hraw, rfl⟩ := ih h
    rw [tokens_pieces_unclosed hbody]
    refine ⟨'{' :: '{' :: before, raw, after, rfl, hraw, ?_⟩
    rw [Text.byteLength_cons, Text.byteLength_cons, ← Nat.add_assoc, ← Nat.add_assoc]
  | plain c s hplain ih =>
    rw [occurrencesFrom_plain raws pos hplain] at h
    obtain ⟨before, raw, after, rfl, hraw, rfl⟩ := ih h
    rw [tokens_pieces_plain hplain]
    refine ⟨c :: before, raw, after, rfl, hraw, ?_⟩
    rw [Text.byteLength_cons, ← Nat.add_assoc]

/-! ## The distinct tokens -/

/-- Of two elements in the list of first appearances, the one that stands before the other also
appears before any copy of it. -/
theorem FirstAppearances.exists_before {all firsts : List Text} (h : FirstAppearances all firsts)
    {i l : Nat} {raw : Text} (hraw : all[l]? = some raw) (hi : i < firsts.idxOf raw) :
    ∃ k < l, ∃ earlier, all[k]? = some earlier ∧ firsts.idxOf earlier = i := by
  have hmem : raw ∈ firsts := (h.mem_iff raw).2 (List.mem_of_getElem? hraw)
  have hlt : firsts.idxOf raw < firsts.length := List.idxOf_lt_length_of_mem hmem
  have hilt : i < firsts.length := hi.trans hlt
  have hall : firsts[i] ∈ all := (h.mem_iff _).1 (List.getElem_mem hilt)
  have hordered := List.pairwise_iff_getElem.1 h.ordered i (firsts.idxOf raw) hilt hlt hi
  rw [List.getElem_idxOf hlt] at hordered
  -- The first copy of an element is not behind any other copy.
  have hfirst : all.idxOf raw ≤ l := by
    obtain ⟨hl, heq⟩ := List.getElem?_eq_some_iff.1 hraw
    by_contra hlate
    have hne := List.not_of_lt_findIdx (Nat.lt_of_not_le hlate)
    rw [heq, beq_self_eq_true] at hne
    cases hne
  refine ⟨all.idxOf firsts[i], by omega, firsts[i], List.getElem?_idxOf hall, ?_⟩
  exact h.nodup.idxOf_getElem i hilt

/-! ## Parsed templates -/

/-- The placeholders and occurrences of a template account for its text. -/
structure Lossless (t : Template) (text : Text) : Prop where
  text_eq : t.text = text
  /-- The occurrences have the spans of the scan. -/
  spans : t.occurrences.map Occurrence.span = Token.scan text
  /-- The spans come in document order. -/
  ordered : t.occurrences.Pairwise fun a b => a.span.stop ≤ b.span.start
  /-- Every index points to a placeholder, and its token is what the span cuts out of the text. -/
  cuts : ∀ o ∈ t.occurrences, ∃ p, t.placeholders[o.index]? = some p ∧ o.span.Cuts text p.raw
  /-- Placeholders are the readings of their tokens. -/
  read : ∀ p ∈ t.placeholders, p = Placeholder.parse p.raw
  /-- No two placeholders have the same token. -/
  distinct : (t.placeholders.map Placeholder.raw).Nodup
  /-- Every placeholder occurs. -/
  occurs : ∀ i < t.placeholders.length, ∃ o ∈ t.occurrences, o.index = i
  /-- The placeholders before that of an occurrence have occurred before it. -/
  first : ∀ (l : Nat) o, t.occurrences[l]? = some o → ∀ i < o.index,
    ∃ k < l, ∃ earlier, t.occurrences[k]? = some earlier ∧ earlier.index = i
  /-- Two occurrences have the same placeholder if and only if their spans cut out the same text. -/
  shared : ∀ o ∈ t.occurrences, ∀ o' ∈ t.occurrences, ∀ raw raw',
    o.span.Cuts text raw → o'.span.Cuts text raw' → (o.index = o'.index ↔ raw = raw')

section Parse

variable (text : Text)

/-- The occurrences of a template have the spans of the scan. -/
theorem map_span_parse : (parse text).occurrences.map Occurrence.span = Token.scan text :=
  map_span_occurrencesFrom _ 0 text

/-- The indices are the places of the tokens among the placeholders. -/
theorem map_index_parse :
    (parse text).occurrences.map Occurrence.index = (tokens (Token.pieces text)).map
      (List.idxOf · ((parse text).placeholders.map Placeholder.raw)) := by
  rw [raws_parse]
  exact map_index_occurrencesFrom _ 0 text

variable {text}

/-- An index stands at a place among the occurrences if and only if it is that of the token at this
place. -/
theorem exists_occurrence_iff {l i : Nat} :
    (∃ o, (parse text).occurrences[l]? = some o ∧ o.index = i) ↔
      ∃ raw, (tokens (Token.pieces text))[l]? = some raw ∧
        ((parse text).placeholders.map Placeholder.raw).idxOf raw = i := by
  rw [← Option.map_eq_some_iff, ← Option.map_eq_some_iff, ← List.getElem?_map, ← List.getElem?_map,
    map_index_parse]

/-- Each occurrence is that of a token, which its span cuts out of the text. -/
theorem cuts_of_mem_occurrences {o : Occurrence} (h : o ∈ (parse text).occurrences) :
    ∃ raw, o.span.Cuts text raw ∧
      (parse text).placeholders[o.index]? = some (Placeholder.parse raw) := by
  have hmem : o ∈ occurrencesFrom (tokens (Token.pieces text)).eraseDups 0 text := h
  obtain ⟨before, raw, after, htext, hraw, rfl⟩ := cuts_of_mem_occurrencesFrom hmem
  refine ⟨raw, ⟨before, after, htext, by simp only [Nat.zero_add]⟩, ?_⟩
  simp only [parse, List.getElem?_map, List.getElem?_idxOf (List.mem_eraseDups.2 hraw)]
  rfl

/-- An occurrence points to the placeholder of the text that its span cuts out. -/
theorem placeholder_of_cuts {o : Occurrence} (h : o ∈ (parse text).occurrences) {raw : Text}
    (hraw : o.span.Cuts text raw) :
    ((parse text).placeholders.map Placeholder.raw)[o.index]? = some raw := by
  obtain ⟨raw', hcuts, hp⟩ := cuts_of_mem_occurrences h
  obtain rfl := hraw.unique hcuts
  rw [List.getElem?_map, hp]
  rfl

variable (text)

/-- Parsing tells the tokens of a text apart and loses none of them. -/
theorem parse_lossless : (parse text).Lossless text where
  text_eq := rfl
  spans := map_span_parse text
  ordered := by
    have hordered := Token.pairwise_scanFrom 0 text
    rw [← map_span_occurrencesFrom (tokens (Token.pieces text)).eraseDups, List.pairwise_map]
      at hordered
    exact hordered
  cuts := fun o ho => by
    obtain ⟨raw, hcuts, hp⟩ := cuts_of_mem_occurrences ho
    exact ⟨_, hp, hcuts⟩
  read := fun p hp => (mem_placeholders.1 hp).2
  distinct := (firstAppearances_parse text).nodup
  occurs := fun i hi => by
    -- The token of the placeholder is among the tokens of the text, where it has its index.
    have hfirsts := firstAppearances_parse text
    have hlength : i < ((parse text).placeholders.map Placeholder.raw).length := by
      rwa [List.length_map]
    obtain ⟨l, hl⟩ := List.mem_iff_getElem?.1 ((hfirsts.mem_iff _).1 (List.getElem_mem hlength))
    obtain ⟨o, ho, hindex⟩ :=
      exists_occurrence_iff.2 ⟨_, hl, hfirsts.nodup.idxOf_getElem i hlength⟩
    exact ⟨o, List.mem_of_getElem? ho, hindex⟩
  first := fun l o ho i hi => by
    obtain ⟨raw, hraw, hindex⟩ := exists_occurrence_iff.1 ⟨o, ho, rfl⟩
    rw [← hindex] at hi
    obtain ⟨k, hk, earlier, hearlier, hplace⟩ :=
      (firstAppearances_parse text).exists_before hraw hi
    exact ⟨k, hk, exists_occurrence_iff.2 ⟨earlier, hearlier, hplace⟩⟩
  shared := fun o ho o' ho' raw raw' hraw hraw' => by
    have hp := placeholder_of_cuts ho hraw
    have hp' := placeholder_of_cuts ho' hraw'
    constructor
    · intro hindex
      rw [hindex, hp'] at hp
      exact (Option.some.inj hp).symm
    · rintro rfl
      have hlt := (List.getElem?_eq_some_iff.1 hp).1
      exact (List.getElem?_inj hlt (firstAppearances_parse text).nodup).1 (hp.trans hp'.symm)

end Parse

end Template

end Stencil
