import Stencil.Proofs.Template.Bytes
import Stencil.Proofs.Template.Locality
import Stencil.Proofs.Template.Lossless

/-!
# The scan is safe

`scan_safe` says that the scan of the bytes of a text refuses no slice, whatever the text, and that
it finds the spans that the scan of its characters finds: one behind the other, and each a token in
double braces (`Span.WellFormed`).

The two scans are compared by `scan_induction`, along what comes first in a text. What the scan of
bytes makes of a token, of opening braces that nothing closes and of a plain character is said by
`next_token`, `next_open` and `next_plain`.
-/

namespace Stencil.Token

open Utf8

namespace Bytes

/-! ## The spans that both scans find -/

section Spans

variable {before : List UInt8} {s : Text}

/-- Behind opening braces, the searches for the end of the token agree. -/
theorem findClose_body (before : List UInt8) (body : Text) :
    findClose (before ++ encode ('{' :: '{' :: body))
        ((before ++ encode ('{' :: '{' :: body))[before.length + 2]? = some '$'.toUInt8) 0 none
        (before.length + 2)
      = .ok ((bodyLength? body).map (endAt (before.length + 2) 0 body)) := by
  have hbytes : before ++ encode ('{' :: '{' :: body)
      = before ++ encode ['{', '{'] ++ encode body :=
    append_encode_append before ['{', '{'] body
  have hlength : before.length + 2 = (before ++ encode ['{', '{']).length :=
    (length_append_encode before ['{', '{']).symm
  have hquote : ∀ q ∈ (none : Option Char), q.toNat < 0x80 := by simp
  have hdollar := head?_encode_eq_iff (show '$'.toNat < 0x80 by decide) body
  rw [hbytes, hlength, getElem?_append_length]
  simp only [hdollar]
  exact findFrom_eq hquote _ 0 body

/-- The scan stops where the text does. -/
theorem next_nil (before : List UInt8) : next (before ++ encode []) before.length = .ok none := by
  have hnil : position? (encode ['{', '{']) (encode []) = none := position?_nil (by simp)
  rw [next, sliceText_append]
  simp only [bind, Except.bind, hnil]
  rfl

/-- Opening braces are found at the front. -/
theorem next_open (before : List UInt8) (body : Text) :
    next (before ++ encode ('{' :: '{' :: body)) before.length
      = .ok (some (match (bodyLength? body).map (endAt (before.length + 2) 0 body) with
        | some stop => (some ⟨before.length, stop⟩, stop)
        | none => (none, before.length + 2))) := by
  have hmark : ['{', '{'] <+: '{' :: '{' :: body := List.prefix_append _ _
  rw [next, sliceText_append]
  simp only [bind, Except.bind, position?_at_front hmark, Nat.add_zero, findClose_body]
  cases bodyLength? body <;> rfl

/-- A plain character is passed over. -/
theorem next_plain {c : Char} (h : IsPlain c s) :
    next (before ++ encode (c :: s)) before.length
      = next (before ++ encode (c :: s)) (before ++ encode [c]).length := by
  have hnot : ¬ ['{', '{'] <+: c :: s := pair_prefix_cons_iff.not.2 h
  have hlength : (before ++ encode [c]).length = before.length + c.utf8Size :=
    length_append_encode before [c]
  rw [next, sliceText_append, next, append_encode_cons, sliceText_append]
  simp only [bind, Except.bind, position?_encode_cons (List.cons_ne_nil _ _) hnot]
  cases position? (encode ['{', '{']) (encode s) with
  | none => rfl
  | some offset =>
    have hstart : before.length + (offset + c.utf8Size)
        = (before ++ encode [c]).length + offset := by
      omega
    simp only [Option.map_some, hstart]

/-- A token is found at the front. -/
theorem next_token {inner : Text} (h : Closes inner) (before : List UInt8) (after : Text) :
    next (before ++ encode ('{' :: '{' :: (inner ++ '}' :: '}' :: after))) before.length
      = .ok (some (some ⟨before.length, before.length + Text.byteLength (braced inner)⟩,
          before.length + Text.byteLength (braced inner))) := by
  have hend : endAt (before.length + 2) 0 (inner ++ '}' :: '}' :: after) (inner.length + 2)
      = before.length + Text.byteLength (braced inner) := by
    have htake : (inner ++ '}' :: '}' :: after).take (inner.length + 2) = inner ++ ['}', '}'] := by
      rw [List.take_length_add_append]
      rfl
    have hclose : Text.byteLength ['}', '}'] = 2 := rfl
    rw [endAt, Nat.sub_zero, htake, Text.byteLength_append, byteLength_braced, hclose]
    omega
  rw [next_open, h after, Option.map_some, hend]

/-- If the scans agree behind what comes first, they agree: the scan of bytes ends early only if
nothing is left. -/
theorem scanFrom_behind {u : Text} {token? : Option Span} (done : List Span)
    (hnext : next (before ++ encode (u ++ s)) before.length
      = .ok (some (token?, before.length + Text.byteLength u)))
    (h : ∀ (before : List UInt8) (done : List Span),
      scanFrom (before ++ encode s) done before.length
        = .ok (done.reverse ++ Token.scanFrom before.length s)) :
    scanFrom (before ++ encode (u ++ s)) done before.length
      = .ok (done.reverse ++ (token?.toList
          ++ Token.scanFrom (before.length + Text.byteLength u) s)) := by
  have hreverse : (token?.toList ++ done).reverse = done.reverse ++ token?.toList := by
    cases token? <;> simp
  rw [scanFrom_eq, hnext]
  simp only
  split
  · rename_i hle
    have hnil : encode s = encode [] := by
      rw [length_append_encode, Text.byteLength_append] at hle
      refine List.length_eq_zero_iff.1 ?_
      rw [length_encode]
      omega
    rw [encode_injective hnil, Token.scanFrom_nil, List.append_nil, hreverse]
  · rw [← length_append_encode, append_encode_append, h, hreverse, List.append_assoc]

/-- The scans agree where a character begins. -/
theorem scanFrom_encode (before : List UInt8) (done : List Span) (s : Text) :
    scanFrom (before ++ encode s) done before.length
      = .ok (done.reverse ++ Token.scanFrom before.length s) := by
  induction s using scan_induction generalizing before done with
  | nil => rw [scanFrom_eq, next_nil, Token.scanFrom_nil, List.append_nil]
  | token inner after h ih =>
    have hcut : '{' :: '{' :: (inner ++ '}' :: '}' :: after) = braced inner ++ after := by
      simp [braced]
    have hnext := next_token h before after
    rw [hcut] at hnext
    rw [scanFrom_token h, hcut]
    exact scanFrom_behind done hnext ih
  | unclosed body h ih =>
    have hnext := next_open before body
    rw [h] at hnext
    rw [scanFrom_unclosed h]
    exact @scanFrom_behind before body ['{', '{'] none done hnext ih
  | plain c s h ih =>
    -- The scan of bytes finds from here what it finds from the next character on.
    have hlength : (before ++ encode [c]).length = before.length + c.utf8Size :=
      length_append_encode before [c]
    rw [scanFrom_plain h, scanFrom_eq, next_plain h, ← scanFrom_eq, append_encode_cons, ih, hlength]

end Spans

/-- The scan of the bytes of a text refuses no slice and finds what the scan of its characters
finds. -/
theorem scan_encode (text : Text) : scan (encode text) = .ok (Token.scan text) :=
  scanFrom_encode [] [] text

end Bytes

/-! ## What a span is -/

/-- A span of the bytes of a text that is a token in double braces. -/
structure Span.WellFormed (text : Text) (span : Span) : Prop where
  /-- There is room for the braces. -/
  room : span.start + 4 ≤ span.stop
  /-- The span is within the text. -/
  within : span.stop ≤ (encode text).length
  /-- It starts where a character does. -/
  start_boundary : ∃ rest : Text, sliceText (encode text) span.start = .ok (encode rest)
  /-- What follows it starts where a character does. -/
  stop_boundary : ∃ rest : Text, sliceText (encode text) span.stop = .ok (encode rest)
  /-- Its bytes are those of a text in double braces. -/
  bytes : ∃ inner, (encode text).extract span.start span.stop = encode (braced inner)

/-- Each span starts behind the start of the ones before, and not before they end. -/
theorem pairwise_scan (text : Text) :
    (scan text).Pairwise fun a b => a.start < b.start ∧ a.stop ≤ b.start := by
  refine (pairwise_scanFrom 0 text).imp_of_mem fun {a b} ha _ h => ?_
  have hroom := (bounds_of_mem_scanFrom ha).2
  exact ⟨by omega, h⟩

/-- What cuts a token out of a text is a span of its bytes that is one. -/
theorem wellFormed_of_cuts {text inner : Text} {span : Span}
    (h : span.Cuts text (braced inner)) : span.WellFormed text := by
  obtain ⟨before, after, rfl, rfl⟩ := h
  have hstop := (Text.byteLength_append before (braced inner)).symm
  constructor
  · simp only [byteLength_braced]
    omega
  · simp only [length_encode, Text.byteLength_append]
    omega
  · exact ⟨_, sliceText_eq_ok_iff.2
      ⟨before, braced inner ++ after, List.append_assoc .., rfl, rfl⟩⟩
  · exact ⟨_, sliceText_eq_ok_iff.2 ⟨before ++ braced inner, after, rfl, hstop, rfl⟩⟩
  · refine ⟨inner, ?_⟩
    simp only
    rw [List.extract_eq_take_drop, Nat.add_sub_cancel_left, ← length_encode, ← length_encode,
      encode_append, encode_append, List.append_assoc, List.drop_left, List.take_left]

/-- A span of the scan is a token in double braces. -/
theorem wellFormed_of_mem_scan {text : Text} {span : Span} (h : span ∈ scan text) :
    span.WellFormed text := by
  obtain ⟨before, inner, after, htext, -, hspan⟩ := exists_token_of_mem_scanFrom h
  rw [Nat.zero_add] at hspan
  exact wellFormed_of_cuts ⟨before, after, htext, hspan⟩

/-- The scan is safe: made on the UTF-8 form of a text, it takes no slice outside of the bytes or
inside of a character, and it finds the spans that the scan of the characters finds. Each of these
starts behind the ones before and not before they end, and each is a token in double braces. -/
theorem scan_safe (text : Text) :
    Bytes.scan (encode text) = .ok (scan text) ∧
      (scan text).Pairwise (fun a b => a.start < b.start ∧ a.stop ≤ b.start) ∧
      ∀ span ∈ scan text, span.WellFormed text :=
  ⟨Bytes.scan_encode text, pairwise_scan text, fun _ => wellFormed_of_mem_scan⟩

/-- A text with a token in which a backslash takes the last character with it. -/
def escapedWide : Text :=
  "é\x7b\x7b/a\\é\x7d\x7d".toList

/-- The search jumps to the second byte of the character behind the backslash, where the text could
not be sliced, and still finds the end of the token. -/
theorem scan_safe_escaped_wide :
    sliceText (encode escapedWide) 8 = .error .insideCharacter ∧
      Bytes.scan (encode escapedWide) = .ok [⟨2, 11⟩] ∧
      ⟨2, 11⟩ ∈ scan escapedWide ∧ Span.WellFormed escapedWide ⟨2, 11⟩ := by
  have hscan : scan escapedWide = [⟨2, 11⟩] := by decide +kernel
  have hmem : ⟨2, 11⟩ ∈ scan escapedWide := by
    rw [hscan]
    exact List.mem_singleton_self _
  obtain ⟨hbytes, -, hwell⟩ := scan_safe escapedWide
  rw [hscan] at hbytes
  exact ⟨by decide +kernel, hbytes, hmem, hwell _ hmem⟩

end Stencil.Token
