import Stencil.Proofs.Template.Scan

/-!
# The scan is local

What the scan finds in a text does not depend on what follows, and what it finds in a token does not
depend on what surrounds it. `scan_local` says both. A text can be scanned in two parts if the first
part has no opening braces outside of its tokens and does not end in a brace that the second part
could make a pair of: the spans are those of the first part, and then those of the second part,
moved behind the first. And the token that a span cuts out of a text is, when it stands alone, the
one token of itself, from its first byte to its last.

The first part is scanned by `scan_induction`. A token closes whatever follows (`Closes`), so only
opening braces that nothing closes could be closed by the second part, and these are not there.
-/

namespace Stencil.Token

/-- A span that lies a number of bytes further on. -/
def Span.shift (n : Nat) (span : Span) : Span :=
  ⟨span.start + n, span.stop + n⟩

/-- The spans of a text that begins further on lie further on. -/
theorem scanFrom_shift (pos n : Nat) (s : Text) :
    scanFrom (pos + n) s = (scanFrom pos s).map (Span.shift n) := by
  induction s using scan_induction generalizing pos with
  | nil => rw [scanFrom_nil, scanFrom_nil, List.map_nil]
  | token inner after h ih =>
    have hpos : pos + n + Text.byteLength (braced inner)
        = pos + Text.byteLength (braced inner) + n := Nat.add_right_comm ..
    rw [scanFrom_token h, scanFrom_token h, List.map_cons, hpos, ih, Span.shift]
  | unclosed body h ih =>
    rw [scanFrom_unclosed h, scanFrom_unclosed h, Nat.add_right_comm, ih]
  | plain c s h ih =>
    rw [scanFrom_plain h, scanFrom_plain h, Nat.add_right_comm, ih]

/-! ## Texts one behind the other -/

/-- In a text that begins at a byte position, all opening braces overlap tokens: there are none in
what stands before, between and behind the spans. -/
def NoPlainOpener (pos : Nat) (s : Text) : Prop :=
  ∀ before body, s = before ++ '{' :: '{' :: body →
    ∃ span ∈ scanFrom pos s,
      span.start < pos + Text.byteLength before + 2 ∧ pos + Text.byteLength before < span.stop

namespace NoPlainOpener

variable {pos : Nat}

/-- Opening braces that nothing closes are plain. -/
theorem not_unclosed {body : Text} (h : bodyLength? body = none) :
    ¬ NoPlainOpener pos ('{' :: '{' :: body) := by
  intro hplain
  obtain ⟨span, hspan, hstart, -⟩ := hplain [] body rfl
  rw [scanFrom_unclosed h] at hspan
  have := (bounds_of_mem_scanFrom hspan).1
  rw [Text.byteLength_nil] at hstart
  omega

/-- Behind a token, all opening braces overlap tokens that are behind it too. -/
theorem token {inner after : Text} (h : Closes inner)
    (hplain : NoPlainOpener pos ('{' :: '{' :: (inner ++ '}' :: '}' :: after))) :
    NoPlainOpener (pos + Text.byteLength (braced inner)) after := by
  rintro before body rfl
  obtain ⟨span, hspan, hstart, hstop⟩ := hplain (braced inner ++ before) body (by simp [braced])
  rw [Text.byteLength_append, ← Nat.add_assoc] at hstart hstop
  rw [scanFrom_token h] at hspan
  rcases List.mem_cons.1 hspan with rfl | hspan
  · -- The token itself ends before them.
    simp only at hstop
    omega
  · exact ⟨span, hspan, hstart, hstop⟩

/-- Behind a plain character, all opening braces still overlap tokens. -/
theorem plain {c : Char} {s : Text} (h : IsPlain c s) (hplain : NoPlainOpener pos (c :: s)) :
    NoPlainOpener (pos + c.utf8Size) s := by
  rintro before body rfl
  obtain ⟨span, hspan, hstart, hstop⟩ := hplain (c :: before) body rfl
  rw [Text.byteLength_cons, ← Nat.add_assoc] at hstart hstop
  rw [scanFrom_plain h] at hspan
  exact ⟨span, hspan, hstart, hstop⟩

end NoPlainOpener

/-- The end of what comes behind is no opening brace if the end of the whole is none. -/
theorem getLast?_ne_of_append {before s : Text} {c : Char} (h : (before ++ s).getLast? ≠ some c) :
    s.getLast? ≠ some c := by
  intro hs
  rw [List.getLast?_append, hs, Option.some_or] at h
  exact h rfl

/-- The spans of two texts one behind the other are those of the one and those of the other. -/
theorem scanFrom_append {a : Text} (b : Text) {pos : Nat} (hplain : NoPlainOpener pos a)
    (hend : a.getLast? ≠ some '{') :
    scanFrom pos (a ++ b) = scanFrom pos a ++ scanFrom (pos + Text.byteLength a) b := by
  induction a using scan_induction generalizing pos with
  | nil => rw [scanFrom_nil, List.nil_append, List.nil_append, Text.byteLength_nil, Nat.add_zero]
  | token inner after h ih =>
    have hcut : '{' :: '{' :: (inner ++ '}' :: '}' :: after) = braced inner ++ after := by
      simp [braced]
    have hbehind : '{' :: '{' :: (inner ++ '}' :: '}' :: after) ++ b
        = '{' :: '{' :: (inner ++ '}' :: '}' :: (after ++ b)) := by
      simp
    have hafter := ih (hplain.token h) (getLast?_ne_of_append (hcut ▸ hend))
    rw [hbehind, scanFrom_token h, scanFrom_token h, hafter, hcut, Text.byteLength_append,
      Nat.add_assoc, List.cons_append]
  | unclosed body h => exact absurd hplain (NoPlainOpener.not_unclosed h)
  | plain c s h ih =>
    -- The character could only find its pair behind the end of the text.
    have hc : IsPlain c (s ++ b) := by
      rintro ⟨rfl, hhead⟩
      cases s with
      | nil => exact hend rfl
      | cons d s => exact h ⟨rfl, hhead⟩
    have hlast : ([c] ++ s).getLast? ≠ some '{' := hend
    have hs := ih (hplain.plain h) (getLast?_ne_of_append hlast)
    rw [List.cons_append, scanFrom_plain hc, scanFrom_plain h, hs, Text.byteLength_cons,
      Nat.add_assoc]

/-! ## Tokens alone -/

/-- A span cuts a token out of the text. -/
theorem exists_token_of_mem_scanFrom {pos : Nat} {s : Text} {span : Span}
    (h : span ∈ scanFrom pos s) :
    ∃ before inner after, s = before ++ braced inner ++ after ∧ Closes inner ∧
      span = ⟨pos + Text.byteLength before,
        pos + Text.byteLength before + Text.byteLength (braced inner)⟩ := by
  induction s using scan_induction generalizing pos with
  | nil =>
    rw [scanFrom_nil] at h
    cases h
  | token inner after hinner ih =>
    rw [scanFrom_token hinner] at h
    rcases List.mem_cons.1 h with rfl | h
    · exact ⟨[], inner, after, by simp [braced], hinner, rfl⟩
    · obtain ⟨before, inner', after', rfl, hinner', rfl⟩ := ih h
      refine ⟨braced inner ++ before, inner', after', by simp [braced], hinner', ?_⟩
      rw [Text.byteLength_append, ← Nat.add_assoc]
  | unclosed body hbody ih =>
    rw [scanFrom_unclosed hbody] at h
    obtain ⟨before, inner, after, rfl, hinner, rfl⟩ := ih h
    have hsize : '{'.utf8Size = 1 := rfl
    refine ⟨'{' :: '{' :: before, inner, after, rfl, hinner, ?_⟩
    rw [Text.byteLength_cons, Text.byteLength_cons, hsize, ← Nat.add_assoc, ← Nat.add_assoc]
  | plain c s hplain ih =>
    rw [scanFrom_plain hplain] at h
    obtain ⟨before, inner, after, rfl, hinner, rfl⟩ := ih h
    refine ⟨c :: before, inner, after, rfl, hinner, ?_⟩
    rw [Text.byteLength_cons, ← Nat.add_assoc]

/-- A token that stands alone has one span, which is all of it. -/
theorem scan_of_closes {inner : Text} (h : Closes inner) :
    scan (braced inner) = [⟨0, Text.byteLength (braced inner)⟩] := by
  have hspan := scanFrom_token h 0 []
  rw [scanFrom_nil, Nat.zero_add] at hspan
  exact hspan

/-- The scan is local:

* If the opening braces of a text all overlap its tokens and it does not end in one, then its spans
  come first whatever follows, and behind them the spans of what follows.
* A span cuts a token out of its text of which the scan makes the same token when it stands
  alone. -/
theorem scan_local :
    (∀ a b : Text,
      (∀ before body, a = before ++ '{' :: '{' :: body → ∃ span ∈ scan a,
        span.start < Text.byteLength before + 2 ∧ Text.byteLength before < span.stop) →
      a.getLast? ≠ some '{' →
      scan (a ++ b) = scan a ++ (scan b).map (Span.shift (Text.byteLength a))) ∧
    ∀ text : Text, ∀ span ∈ scan text, ∃ before raw after, text = before ++ raw ++ after ∧
      span = ⟨Text.byteLength before, Text.byteLength before + Text.byteLength raw⟩ ∧
      scan raw = [⟨0, Text.byteLength raw⟩] := by
  constructor
  · intro a b hoverlap hend
    have hplain : NoPlainOpener 0 a := by
      intro before body ha
      rw [Nat.zero_add]
      exact hoverlap before body ha
    have happend : scan (a ++ b) = scan a ++ scanFrom (0 + Text.byteLength a) b :=
      scanFrom_append b hplain hend
    rw [happend, scanFrom_shift]
    rfl
  · intro text span hspan
    have hspan : span ∈ scanFrom 0 text := hspan
    obtain ⟨before, inner, after, htext, hinner, hbounds⟩ := exists_token_of_mem_scanFrom hspan
    rw [Nat.zero_add] at hbounds
    exact ⟨before, braced inner, after, htext, hbounds, scan_of_closes hinner⟩

/-- A text with a single brace, and with a token that has braces of both kinds in quotes. -/
def quotedBraces : Text :=
  "é\x7b \x7b\x7b$x:suffix('\x7b\x7b\x7d\x7d')\x7d\x7d\x7d".toList

/-- The braces in quotes overlap the token, so that a second token behind it is found where it is
found alone, 26 bytes further on. The first token is the one token of itself. -/
theorem scan_local_quoted_braces :
    let b : Text := "\x7b\x7b/y\x7d\x7d \x7b\x7b".toList
    (∀ before body, quotedBraces = before ++ '{' :: '{' :: body → ∃ span ∈ scan quotedBraces,
        span.start < Text.byteLength before + 2 ∧ Text.byteLength before < span.stop) ∧
      quotedBraces.getLast? ≠ some '{' ∧
      scan (quotedBraces ++ b) = scan quotedBraces ++ (scan b).map (Span.shift 26) ∧
      ⟨4, 25⟩ ∈ scan quotedBraces ∧ ∃ before raw after, quotedBraces = before ++ raw ++ after ∧
        ⟨4, 25⟩ = Span.mk (Text.byteLength before) (Text.byteLength before + Text.byteLength raw) ∧
        scan raw = [⟨0, Text.byteLength raw⟩] := by
  intro b
  have hscan : scan quotedBraces = [⟨4, 25⟩] := by decide +kernel
  have hall : ∀ i < quotedBraces.length, (quotedBraces.drop i).take 2 = ['{', '{'] →
      4 < Text.byteLength (quotedBraces.take i) + 2 ∧
        Text.byteLength (quotedBraces.take i) < 25 := by
    decide +kernel
  have hoverlap : ∀ before body, quotedBraces = before ++ '{' :: '{' :: body →
      ∃ span ∈ scan quotedBraces,
        span.start < Text.byteLength before + 2 ∧ Text.byteLength before < span.stop := by
    intro before body h
    have hplace := hall before.length (by rw [h]; simp) (by rw [h]; simp)
    rw [h, List.take_left] at hplace
    rw [hscan]
    exact ⟨_, List.mem_singleton_self _, hplace⟩
  have hend : quotedBraces.getLast? ≠ some '{' := by decide
  have hlength : Text.byteLength quotedBraces = 26 := by decide
  have hlocal := scan_local.1 quotedBraces b hoverlap hend
  rw [hlength] at hlocal
  have hmem : ⟨4, 25⟩ ∈ scan quotedBraces := by
    rw [hscan]
    exact List.mem_singleton_self _
  exact ⟨hoverlap, hend, hlocal, hmem, scan_local.2 quotedBraces ⟨4, 25⟩ hmem⟩

end Stencil.Token
