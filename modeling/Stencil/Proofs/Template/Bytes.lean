import Stencil.Proofs.Data.Mapping
import Stencil.Proofs.Template.Closing
import Stencil.Proofs.Text.Bytes

/-!
# The scan of bytes

The scan of a text can be made on its UTF-8 form, byte by byte, as `scan` does here. It takes slices
of the bytes, which are refused outside of them and inside of a character, and on its way to the end
of a token it goes through characters of several bytes; a backslash even takes it into the middle of
one.

The search for the end of a token finds the one that the search on characters finds, where a
character begins (`findFrom_eq`). Between such places it meets only bytes that go on with a
character, which mean nothing to it (`findClose_continues`), so that it comes to the next character
however it came into this one.
-/

namespace Stencil.Token.Bytes

open Utf8

/-! ## The scan -/

/-- The position behind the next closing braces. -/
def findBraces (bytes : List UInt8) (i : Nat) : Except SliceError (Option Nat) := do
  let rest ← slice bytes i
  return (position? (encode ['}', '}']) rest).map (i + · + 2)

/-- The position behind the braces that close a token. The parameters say whether it is a variable
token, how many parentheses are open, and which quote is open. -/
def findClose (bytes : List UInt8) (isVariable : Bool) (depth : Nat) (quote : Option UInt8)
    (i : Nat) : Except SliceError (Option Nat) :=
  if hi : i < bytes.length then
    let b := bytes[i]
    if b = '\\'.toUInt8 then findClose bytes isVariable depth quote (i + 2)
    else
      match quote with
      | some q => findClose bytes isVariable depth (if b = q then none else some q) (i + 1)
      | none =>
        if b = '|'.toUInt8 ∧ isVariable ∧ depth = 0 then
          match slice bytes i with
          | .error e => .error e
          | .ok rest =>
            if (encode defaultMark).isPrefixOf rest then
              findBraces bytes (i + (encode defaultMark).length)
            else findClose bytes isVariable depth none (i + 1)
        else if (b = '"'.toUInt8 ∨ b = '\''.toUInt8) ∧ isVariable ∧ 0 < depth then
          findClose bytes isVariable depth (some b) (i + 1)
        else if b = '('.toUInt8 ∧ isVariable then
          findClose bytes isVariable (depth + 1) none (i + 1)
        else if b = ')'.toUInt8 ∧ isVariable then
          findClose bytes isVariable (depth - 1) none (i + 1)
        else if b = '}'.toUInt8 ∧ bytes[i + 1]? = some '}'.toUInt8 then .ok (some (i + 2))
        else findClose bytes isVariable depth none (i + 1)
  else .ok none
termination_by bytes.length - i

/-- What comes first from a position on: a token or opening braces that nothing closes, and the
position behind; `none` if there are no opening braces. -/
def next (bytes : List UInt8) (pos : Nat) : Except SliceError (Option (Option Span × Nat)) := do
  let rest ← sliceText bytes pos
  match position? (encode ['{', '{']) rest with
  | none => return none
  | some offset =>
    let start := pos + offset
    let isVariable := bytes[start + 2]? = some '$'.toUInt8
    match ← findClose bytes isVariable 0 none (start + 2) with
    | some stop => return some (some ⟨start, stop⟩, stop)
    | none => return some (none, start + 2)

variable {bytes : List UInt8} {isVariable : Bool} {depth i stop pos : Nat} {quote : Option UInt8}

/-- The search for closing braces goes forward. -/
theorem le_of_findBraces (h : findBraces bytes i = .ok (some stop)) : i ≤ stop := by
  obtain ⟨rest, -, h⟩ := bind_eq_ok h
  obtain ⟨p, -, rfl⟩ := Option.map_eq_some_iff.1 (Except.ok.inj h)
  omega

/-- The search for the end of a token goes forward. -/
theorem le_of_findClose (h : findClose bytes isVariable depth quote i = .ok (some stop)) :
    i ≤ stop := by
  fun_induction findClose bytes isVariable depth quote i with
  | case3 | case11 => cases h
  | case4 =>
    have := le_of_findBraces h
    omega
  | case9 =>
    obtain rfl := Option.some.inj (Except.ok.inj h)
    omega
  | _ =>
    rename_i ih
    have := ih h
    omega

/-- What is found is behind the position. -/
theorem lt_of_next {found : Option Span × Nat} (h : next bytes pos = .ok (some found)) :
    pos < found.2 := by
  obtain ⟨rest, -, h⟩ := bind_eq_ok h
  split at h
  · cases h
  · obtain ⟨r, hclose, h⟩ := bind_eq_ok h
    split at h
    · cases h
      have := le_of_findClose hclose
      simp only
      omega
    · cases h
      simp only
      omega

/-- The spans of the tokens from a position on. `done` holds the spans so far, the last one
first. -/
def scanFrom (bytes : List UInt8) (done : List Span) (pos : Nat) :
    Except SliceError (List Span) :=
  match _ : next bytes pos with
  | .error e => .error e
  | .ok none => .ok done.reverse
  | .ok (some (token?, behind)) =>
    if bytes.length ≤ behind then .ok (token?.toList ++ done).reverse
    else scanFrom bytes (token?.toList ++ done) behind
termination_by bytes.length - pos
decreasing_by
  have := lt_of_next ‹_›
  omega

/-- The byte ranges of the tokens of a text that is given by its bytes. -/
def scan (bytes : List UInt8) : Except SliceError (List Span) :=
  scanFrom bytes [] 0

/-- The scan goes on behind what comes first if there are bytes left. -/
theorem scanFrom_eq (done : List Span) (pos : Nat) :
    scanFrom bytes done pos =
      match next bytes pos with
      | .error e => .error e
      | .ok none => .ok done.reverse
      | .ok (some (token?, behind)) =>
        if bytes.length ≤ behind then .ok (token?.toList ++ done).reverse
        else scanFrom bytes (token?.toList ++ done) behind := by
  rw [scanFrom]
  split <;> simp_all

/-! ## The end of a token -/

/-- A byte that goes on with a character means nothing in the search. -/
theorem findClose_continues {b : UInt8} (hb : bytes[i]? = some b) (hc : Continues b)
    (hquote : ∀ q ∈ quote, ¬ Continues q) :
    findClose bytes isVariable depth quote i = findClose bytes isVariable depth quote (i + 1) := by
  have hne : ∀ b', ¬ Continues b' → b ≠ b' := by
    rintro b' hb' rfl
    exact hb' hc
  obtain ⟨hi, rfl⟩ := List.getElem?_eq_some_iff.1 hb
  rw [findClose, dif_pos hi]
  simp only [hne '\\'.toUInt8 (by decide), hne '|'.toUInt8 (by decide), hne '"'.toUInt8 (by decide),
    hne '\''.toUInt8 (by decide), hne '('.toUInt8 (by decide), hne ')'.toUInt8 (by decide),
    hne '}'.toUInt8 (by decide), false_and, or_self, if_false]
  cases quote with
  | none => rfl
  | some q => simp only [hne q (hquote q rfl), if_false]

/-- The search goes through the bytes that go on with a character. -/
theorem findClose_tail {before tail rest : List UInt8} (htail : ∀ b ∈ tail, Continues b)
    (hquote : ∀ q ∈ quote, ¬ Continues q) :
    findClose (before ++ (tail ++ rest)) isVariable depth quote before.length
      = findClose (before ++ (tail ++ rest)) isVariable depth quote (before ++ tail).length := by
  induction tail generalizing before with
  | nil => rw [List.append_nil]
  | cons b tail ih =>
    obtain ⟨hb, htail⟩ := List.forall_mem_cons.1 htail
    have hget : (before ++ (b :: tail ++ rest))[before.length]? = some b := by simp
    have hbytes : before ++ (b :: tail ++ rest) = (before ++ [b]) ++ (tail ++ rest) := by simp
    have hlength : before.length + 1 = (before ++ [b]).length := by simp
    rw [findClose_continues hget hb hquote, hbytes, hlength, ih htail, List.append_assoc,
      List.append_assoc]
    rfl

/-- The byte behind a number of others. -/
theorem getElem?_append_length (before rest : List UInt8) :
    (before ++ rest)[before.length]? = rest.head? := by
  rw [List.getElem?_append_right (Nat.le_refl _), Nat.sub_self, List.head?_eq_getElem?]

/-- The search for the end of a token from where a text begins, behind other bytes. -/
def findFrom (before : List UInt8) (s : Text) (isVariable : Bool) (depth : Nat)
    (quote : Option Char) : Except SliceError (Option Nat) :=
  findClose (before ++ encode s) isVariable depth (quote.map Char.toUInt8) before.length

section Characters

variable {before : List UInt8} {c : Char} {s : Text}

/-- Behind the first byte of a character, the search comes to the next character. -/
theorem findClose_behind_lead {quote : Option Char} (hquote : ∀ q ∈ quote, q.toNat < 0x80) :
    findClose (before ++ encode (c :: s)) isVariable depth (quote.map Char.toUInt8)
        (before.length + 1)
      = findFrom (before ++ encode [c]) s isVariable depth quote := by
  -- What is left of the character only goes on with it, and a quote that is open is none of that.
  obtain ⟨tail, hc, htail⟩ := exists_lead c
  have hbytes : before ++ encode (c :: s) = (before ++ [leadByte c]) ++ (tail ++ encode s) := by
    simp [encode_cons, hc]
  have hbehind : before ++ encode [c] = (before ++ [leadByte c]) ++ tail := by
    simp [encode, hc]
  have hlength : before.length + 1 = (before ++ [leadByte c]).length := by simp
  have hbyte : ∀ b ∈ quote.map Char.toUInt8, ¬ Continues b := by
    intro b hb
    obtain ⟨q, hq, rfl⟩ := Option.map_eq_some_iff.1 hb
    exact not_continues_toUInt8 (hquote q hq)
  rw [hbytes, hlength, findClose_tail htail hbyte, findFrom, hbehind, List.append_assoc _ tail]

/-- The first byte of a character is the one that the search looks at. -/
theorem getElem?_encode_cons (before : List UInt8) (c : Char) (s : Text) :
    (before ++ encode (c :: s))[before.length]? = some (leadByte c) := by
  obtain ⟨tail, hc, -⟩ := exists_lead c
  rw [getElem?_append_length, encode_cons, hc]
  rfl

/-- The end of the text ends the search. -/
theorem findFrom_nil {quote : Option Char} :
    findFrom before [] isVariable depth quote = .ok none := by
  rw [findFrom, findClose, dif_neg]
  simp [encode]

/-- A backslash takes the search two bytes further. -/
theorem findFrom_backslash {quote : Option Char} :
    findFrom before ('\\' :: s) isVariable depth quote
      = findClose (before ++ encode ('\\' :: s)) isVariable depth (quote.map Char.toUInt8)
          (before.length + 2) := by
  obtain ⟨hi, hbyte⟩ := List.getElem?_eq_some_iff.1 (getElem?_encode_cons before '\\' s)
  have hlead : leadByte '\\' = '\\'.toUInt8 := (leadByte_eq_iff (by decide)).2 rfl
  rw [findFrom, findClose, dif_pos hi]
  simp only [hbyte, hlead, if_true]

/-- A backslash takes the next character with it, as many bytes as this has. -/
theorem findFrom_escape {quote : Option Char} (hquote : ∀ q ∈ quote, q.toNat < 0x80) :
    findFrom before ('\\' :: c :: s) isVariable depth quote
      = findFrom (before ++ encode ['\\', c]) s isVariable depth quote := by
  have hlength : before.length + 2 = (before ++ encode ['\\']).length + 1 := by
    rw [length_append_encode]
    rfl
  rw [findFrom_backslash, append_encode_cons before '\\', hlength, findClose_behind_lead hquote,
    ← append_encode_append, List.singleton_append]

/-- A backslash at the end takes the search out of the text. -/
theorem findFrom_escape_nil {quote : Option Char} :
    findFrom before ['\\'] isVariable depth quote = .ok none := by
  have hlength : (before ++ encode ['\\']).length = before.length + 1 :=
    length_append_encode before ['\\']
  rw [findFrom_backslash, findClose, dif_neg]
  omega

/-- Inside of quotes only the quote counts. -/
theorem findFrom_quoted {q : Char} (hq : q.toNat < 0x80) (hesc : c ≠ '\\') :
    findFrom before (c :: s) isVariable depth (some q)
      = findFrom (before ++ encode [c]) s isVariable depth (if c = q then none else some q) := by
  obtain ⟨hi, hbyte⟩ := List.getElem?_eq_some_iff.1 (getElem?_encode_cons before c s)
  have hlead : leadByte c ≠ '\\'.toUInt8 := (leadByte_eq_iff (by decide)).not.2 hesc
  have hquote : ∀ q' ∈ (if c = q then none else some q), q'.toNat < 0x80 := by
    intro q' hq'
    obtain ⟨-, hq'⟩ := Option.ite_none_left_eq_some.1 hq'
    rwa [← Option.some.inj hq']
  rw [← findClose_behind_lead hquote, findFrom, findClose, dif_pos hi]
  simp only [hbyte, if_neg hlead, Option.map_some, leadByte_eq_iff hq]
  congr 1
  split <;> rfl

/-- A brace before another one is seen in the bytes. -/
theorem closingBraces_iff :
    (c = '}' ∧ (before ++ encode (c :: s))[before.length + 1]? = some '}'.toUInt8) ↔
      c = '}' ∧ s.head? = some '}' := by
  refine and_congr_right ?_
  rintro rfl
  have hlength : (before ++ encode ['}']).length = before.length + 1 :=
    length_append_encode before ['}']
  rw [append_encode_cons, ← hlength, getElem?_append_length, head?_encode_eq_iff (by decide)]

/-- What the search does at a character outside of quotes. -/
theorem findFrom_bare (hesc : c ≠ '\\') :
    findFrom before (c :: s) isVariable depth none
      = let goOn := findFrom (before ++ encode [c]) s isVariable
        if c = '|' ∧ isVariable ∧ depth = 0 then
          if defaultMark <+: c :: s then
            findBraces (before ++ encode (c :: s)) (before.length + (encode defaultMark).length)
          else goOn depth none
        else if (c = '"' ∨ c = '\'') ∧ isVariable ∧ 0 < depth then goOn depth (some c)
        else if c = '(' ∧ isVariable then goOn (depth + 1) none
        else if c = ')' ∧ isVariable then goOn (depth - 1) none
        else if c = '}' ∧ s.head? = some '}' then .ok (some (before.length + 2))
        else goOn depth none := by
  have hlead : ∀ d : Char, d.toNat < 0x80 → (leadByte c = d.toUInt8 ↔ c = d) :=
    fun d => leadByte_eq_iff
  have hprefix : (encode defaultMark).isPrefixOf (encode (c :: s)) ↔ defaultMark <+: c :: s := by
    rw [List.isPrefixOf_iff_prefix, encode_prefix_iff]
  have hnone : ∀ depth, findClose (before ++ encode (c :: s)) isVariable depth none
      (before.length + 1) = findFrom (before ++ encode [c]) s isVariable depth none :=
    fun depth => @findClose_behind_lead isVariable depth before c s none (by simp)
  obtain ⟨hi, hbyte⟩ := List.getElem?_eq_some_iff.1 (getElem?_encode_cons before c s)
  rw [findFrom, findClose, dif_pos hi]
  simp only [hbyte, hlead '\\' (by decide), hlead '|' (by decide), hlead '"' (by decide),
    hlead '\'' (by decide), hlead '(' (by decide), hlead ')' (by decide), hlead '}' (by decide),
    if_neg hesc, slice_append, hprefix, closingBraces_iff, Option.map_none, hnone]
  by_cases hq : c = '"' ∨ c = '\''
  · -- The quote that opens is kept as a byte.
    have hc : c.toNat < 0x80 := by
      rcases hq with rfl | rfl <;> decide
    rw [(hlead c hc).2 rfl, ← @findClose_behind_lead isVariable depth before c s (some c)]
    · rfl
    · simpa using hc
  · simp only [hq, false_and, if_false]

end Characters

/-! ## The end that both searches find -/

/-- The byte position that a number of characters has, if `n` of these come before a text that
begins at `pos`. -/
def endAt (pos n : Nat) (s : Text) (m : Nat) : Nat :=
  pos + Text.byteLength (s.take (m - n))

section Ends

variable {n : Nat} {u s : Text} {r : Option Nat}

/-- Closing braces at the front end two bytes further on. -/
theorem endAt_braces (pos n : Nat) (s : Text) :
    endAt pos n ('}' :: '}' :: s) (n + 2) = pos + 2 := by
  rw [endAt, Nat.add_sub_cancel_left]
  rfl

/-- The text at the front can be counted among what comes before. -/
theorem map_endAt_append (before : List UInt8) (h : ∀ m ∈ r, n + u.length ≤ m) :
    r.map (endAt (before ++ encode u).length (n + u.length) s)
      = r.map (endAt before.length n (u ++ s)) := by
  refine Option.map_congr fun m hm => ?_
  have hcount := h m hm
  have htake : (u ++ s).take (m - n) = u ++ s.take (m - (n + u.length)) := by
    rw [List.take_append, List.take_of_length_le (by omega), Nat.sub_sub]
  rw [endAt, endAt, htake, Text.byteLength_append, length_append_encode, Nat.add_assoc]

/-- Behind a number of bytes, the search for closing braces looks at what follows. -/
theorem findBraces_append (before rest : List UInt8) :
    findBraces (before ++ rest) before.length
      = .ok ((position? (encode ['}', '}']) rest).map (before.length + · + 2)) := by
  rw [findBraces, slice_append]
  rfl

/-- The searches for closing braces agree. -/
theorem findBraces_encode (before : List UInt8) (n : Nat) (s : Text) :
    findBraces (before ++ encode s) before.length
      = .ok ((bracesLength? n s).map (endAt before.length n s)) := by
  have hmark : ['}', '}'] ≠ [] := List.cons_ne_nil _ _
  rw [findBraces_append]
  congr 1
  fun_induction bracesLength? n s generalizing before with
  | case1 n =>
    have hnil : position? (encode ['}', '}']) (encode []) = none := position?_nil hmark
    rw [hnil, Option.map_none, Option.map_none]
  | case2 n s =>
    have hfront : ['}', '}'] <+: '}' :: '}' :: s := List.prefix_append _ _
    rw [position?_at_front hfront, Option.map_some, Option.map_some, endAt_braces]
  | case3 n c s hc ih =>
    have hnot : ¬ ['}', '}'] <+: c :: s := by
      rintro ⟨r, hr⟩
      obtain ⟨rfl, rfl⟩ := List.cons.inj hr
      exact hc r rfl rfl
    have hcount : ∀ m ∈ bracesLength? (n + 1) s, n + [c].length ≤ m :=
      fun m hm => (bracesLength?_eq_some hm).le
    have hs := (ih (before ++ encode [c])).trans (map_endAt_append before hcount)
    rw [length_append_encode] at hs
    rw [position?_encode_cons hmark hnot, Option.map_map]
    refine Eq.trans ?_ hs
    congr 1
    funext p
    simp only [Function.comp_apply, Text.byteLength_cons, Text.byteLength_nil]
    omega

/-- If the searches agree behind a character, they also do if it is counted with the rest. -/
theorem findFrom_behind {quote : Option Char} (before : List UInt8) (c : Char)
    (h : ∀ before, findFrom before s isVariable depth quote
      = .ok ((closeLength? isVariable depth quote (n + 1) s).map
          (endAt before.length (n + 1) s))) :
    findFrom (before ++ encode [c]) s isVariable depth quote
      = .ok ((closeLength? isVariable depth quote (n + 1) s).map
          (endAt before.length n (c :: s))) := by
  have hcount : ∀ m ∈ closeLength? isVariable depth quote (n + 1) s, n + [c].length ≤ m :=
    fun m hm => (closeLength?_eq_some hm).le
  exact (h _).trans (congrArg _ (map_endAt_append before hcount))

/-- The searches for the end of a token agree where a character begins. -/
theorem findFrom_eq {quote : Option Char} (hquote : ∀ q ∈ quote, q.toNat < 0x80)
    (before : List UInt8) (n : Nat) (s : Text) :
    findFrom before s isVariable depth quote
      = .ok ((closeLength? isVariable depth quote n s).map (endAt before.length n s)) := by
  fun_induction closeLength? isVariable depth quote n s generalizing before with
  | case1 => exact findFrom_nil
  | case2 => exact findFrom_escape_nil
  | case3 depth quote n c s ih =>
    -- However many bytes the character has, both searches go on behind it.
    have hcount : ∀ m ∈ closeLength? isVariable depth quote (n + 2) s, n + 2 ≤ m :=
      fun m hm => (closeLength?_eq_some hm).le
    rw [findFrom_escape hquote, ih hquote]
    exact congrArg _ (@map_endAt_append n ['\\', c] _ _ before hcount)
  | case4 depth n c s h1 h2 q ih =>
    have hquote' : ∀ q' ∈ (if c = q then none else some q), q'.toNat < 0x80 := by
      intro q' hq'
      obtain ⟨-, hq'⟩ := Option.ite_none_left_eq_some.1 hq'
      exact hquote q' hq'
    rw [findFrom_quoted (hquote q rfl) (ne_backslash h1 h2)]
    exact findFrom_behind before c (ih hquote')
  | case5 depth n c s h1 h2 hclose =>
    -- These are the braces that close, and the search of bytes comes to them in its last branch.
    obtain ⟨rfl, hhead⟩ := hclose
    obtain ⟨r, rfl⟩ := List.head?_eq_some_iff.1 hhead
    rw [findFrom_bare (by decide), Option.map_some, endAt_braces]
    simp
  | case6 depth n c s h1 h2 hclose hv ih =>
    cases hv
    rw [findFrom_bare (ne_backslash h1 h2)]
    simpa [hclose] using findFrom_behind before c (ih hquote)
  | case7 depth n s hv h1 h2 hclose ih =>
    cases eq_true_of_ne_false hv
    rw [findFrom_bare (by decide)]
    simpa using findFrom_behind before '(' (ih hquote)
  | case8 depth n s hv h1 h2 hclose _ ih =>
    cases eq_true_of_ne_false hv
    rw [findFrom_bare (by decide)]
    simpa using findFrom_behind before ')' (ih hquote)
  | case9 depth n c s h1 h2 hclose hv hl hr hq ih =>
    cases eq_true_of_ne_false hv
    have hc : c ≠ '|' ∧ c.toNat < 0x80 := by
      rcases hq.1 with rfl | rfl <;> decide
    rw [findFrom_bare (ne_backslash h1 h2)]
    simpa [hq, hc.1] using findFrom_behind before c (ih (by simpa using hc.2))
  | case10 n c s h1 h2 hclose hv hl hr literal hmark hq =>
    -- Behind the mark, the searches for closing braces take over.
    cases eq_true_of_ne_false hv
    have hcons := Text.dropMark?_eq_some_iff.1 hmark
    have hc : c = '|' := (List.cons.inj hcons).1
    have hprefix : defaultMark <+: c :: s := ⟨literal, hcons.symm⟩
    have hcount : ∀ m ∈ bracesLength? (n + defaultMark.length) literal,
        n + defaultMark.length ≤ m :=
      fun m hm => (bracesLength?_eq_some hm).le
    rw [findFrom_bare (ne_backslash h1 h2), if_pos ⟨hc, rfl, rfl⟩, if_pos hprefix, hcons,
      append_encode_append, ← List.length_append, findBraces_encode _ (n + defaultMark.length),
      map_endAt_append before hcount]
  | case11 n c s h1 h2 hclose hv hl hr hmark hq ih =>
    cases eq_true_of_ne_false hv
    have hprefix := Text.dropMark?_eq_none_iff.1 hmark
    rw [findFrom_bare (ne_backslash h1 h2)]
    simpa [hl, hr, hclose, hprefix] using findFrom_behind before c (ih hquote)
  | case12 depth n c s h1 h2 hclose hv hl hr hq hdepth ih =>
    cases eq_true_of_ne_false hv
    rw [findFrom_bare (ne_backslash h1 h2)]
    simpa [hl, hr, hq, hclose, hdepth] using findFrom_behind before c (ih hquote)

end Ends

end Stencil.Token.Bytes
