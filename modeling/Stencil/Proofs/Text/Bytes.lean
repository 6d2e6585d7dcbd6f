import Mathlib.Data.List.Infix
import Stencil.Proofs.Text.Order

/-!
# Slices of the bytes of a text

A slice of bytes begins within them (`slice`), and a slice of the bytes of a text also begins where
a character does (`sliceText`). Other positions are refused, so that what a slice of a text gives is
a text again (`sliceText_eq_ok_iff`).

The first byte of a character is none that goes on with another one (`exists_lead`), and below 128
it tells which character it is (`leadByte_eq_iff`). Hence a text is found in the bytes of another
one where it is in that text: it begins there (`encode_prefix_iff`) or some characters further on
(`position?_encode_cons`).
-/

namespace Stencil.Utf8

/-! ## Slices -/

/-- The byte goes on with a character that another byte began. -/
def Continues (b : UInt8) : Prop :=
  0x80 ≤ b ∧ b ≤ 0xbf

instance (b : UInt8) : Decidable (Continues b) :=
  inferInstanceAs (Decidable (_ ∧ _))

/-- Why a position is no start of a slice. -/
inductive SliceError
  | outOfRange
  | insideCharacter
  deriving DecidableEq, Repr

/-- The bytes from a position on. -/
def slice (bytes : List UInt8) (i : Nat) : Except SliceError (List UInt8) :=
  if i ≤ bytes.length then .ok (bytes.drop i) else .error .outOfRange

/-- The bytes of a text from a position on, which is refused inside of a character. -/
def sliceText (bytes : List UInt8) (i : Nat) : Except SliceError (List UInt8) :=
  match bytes[i]? with
  | some b => if Continues b then .error .insideCharacter else slice bytes i
  | none => slice bytes i

/-- The first position at which bytes begin with a mark. -/
def position? (mark bytes : List UInt8) : Option Nat :=
  bytes.tails.findIdx? (mark.isPrefixOf ·)

/-! ## The first byte of a character -/

/-- The byte that the form of a character begins with. -/
def leadByte (c : Char) : UInt8 :=
  UInt8.ofNat (leadNumber c.toNat)

/-- The first byte of a character has the number that is said. -/
theorem toNat_leadByte (c : Char) : (leadByte c).toNat = leadNumber c.toNat :=
  toNat_ofNat (leadNumber_lt_size (lt_of_isValidChar c.valid))

/-- The last bytes of a form go on with it. -/
theorem continues_of_mem_tailBytes {n v : Nat} {b : UInt8} (h : b ∈ tailBytes n v) :
    Continues b := by
  induction n with
  | zero => cases h
  | succ n ih =>
    rcases List.mem_cons.1 h with rfl | h
    · exact continues_wide (Nat.mod_lt _ (by decide))
    · exact ih h

/-- The first byte of a character does not go on with another one. -/
theorem not_continues_leadByte (c : Char) : ¬ Continues (leadByte c) := by
  rintro ⟨hlow, hhigh⟩
  rw [UInt8.le_iff_toNat_le, toNat_leadByte] at hlow hhigh
  simp only [UInt8.reduceToNat] at hlow hhigh
  have hcases := following_cases (v := c.toNat) (lt_of_isValidChar c.valid)
  omega

/-- A character is its first byte and bytes that go on with it. -/
theorem exists_lead (c : Char) :
    ∃ tail, String.utf8EncodeChar c = leadByte c :: tail ∧ ∀ b ∈ tail, Continues b :=
  ⟨_, utf8EncodeChar_eq c, fun _ => continues_of_mem_tailBytes⟩

/-- A byte below 128 is the first one of one character only. -/
theorem leadByte_eq_iff {c d : Char} (hd : d.toNat < 0x80) :
    leadByte c = d.toUInt8 ↔ c = d := by
  have hnumber : d.toUInt8.toNat = d.toNat := toNat_ofNat (Nat.lt_trans hd (by decide))
  rw [← UInt8.toNat_inj, toNat_leadByte, hnumber, ← Char.toNat_inj]
  have hcases := following_cases (v := c.toNat) (lt_of_isValidChar c.valid)
  omega

/-- The byte of a character below 128 does not go on with another one. -/
theorem not_continues_toUInt8 {d : Char} (hd : d.toNat < 0x80) : ¬ Continues d.toUInt8 := by
  rw [← (leadByte_eq_iff hd).2 rfl]
  exact not_continues_leadByte d

/-- The first byte of a text tells whether it begins with a character below 128. -/
theorem head?_encode_eq_iff {d : Char} (hd : d.toNat < 0x80) (s : Text) :
    (encode s).head? = some d.toUInt8 ↔ s.head? = some d := by
  cases s with
  | nil => simp [encode]
  | cons c s =>
    obtain ⟨tail, hc, -⟩ := exists_lead c
    rw [encode_cons, hc, List.cons_append, List.head?_cons, List.head?_cons, Option.some.injEq,
      Option.some.injEq, leadByte_eq_iff hd]

/-! ## Texts at a position -/

/-- The form of two texts one behind the other. -/
theorem encode_append (s t : Text) : encode (s ++ t) = encode s ++ encode t :=
  List.flatMap_append

/-- Bytes with a text behind them go on with what the text begins with. -/
theorem append_encode_append (before : List UInt8) (u s : Text) :
    before ++ encode (u ++ s) = before ++ encode u ++ encode s := by
  rw [encode_append, List.append_assoc]

/-- Bytes with a text behind them go on with its first character. -/
theorem append_encode_cons (before : List UInt8) (c : Char) (s : Text) :
    before ++ encode (c :: s) = before ++ encode [c] ++ encode s :=
  append_encode_append before [c] s

/-- A text behind bytes takes as many more. -/
theorem length_append_encode (before : List UInt8) (u : Text) :
    (before ++ encode u).length = before.length + Text.byteLength u := by
  rw [List.length_append, length_encode]

/-- The forms of texts begin with each other as the texts do. -/
theorem encode_prefix_iff {mark s : Text} : encode mark <+: encode s ↔ mark <+: s := by
  constructor
  · intro h
    induction mark generalizing s with
    | nil => exact List.nil_prefix
    | cons m mark ih =>
      cases s with
      | nil =>
        have hnil : encode (m :: mark) = encode [] := List.prefix_nil.1 h
        cases encode_injective hnil
      | cons c s =>
        rw [encode_cons, encode_cons] at h
        -- The forms of different characters differ before either of them ends.
        have hvalue : ¬ (m.toNat < c.toNat ∨ c.toNat < m.toNat) := by
          obtain ⟨rest, hrest⟩ := h
          rw [List.append_assoc] at hrest
          rintro (hlt | hlt)
          · have := utf8EncodeChar_lt hlt (encode mark ++ rest) (encode s)
            rw [hrest] at this
            exact List.lt_irrefl _ this
          · have := utf8EncodeChar_lt hlt (encode s) (encode mark ++ rest)
            rw [hrest] at this
            exact List.lt_irrefl _ this
        obtain rfl : m = c := Char.toNat_inj.1 (by omega)
        rw [List.prefix_append_right_inj] at h
        rw [List.cons_prefix_cons]
        exact ⟨rfl, ih h⟩
  · rintro ⟨rest, rfl⟩
    rw [encode_append]
    exact List.prefix_append _ _

/-! ## Slices of a text -/

/-- A slice from behind a number of bytes is one of what follows them. -/
theorem slice_add (before rest : List UInt8) (i : Nat) :
    slice (before ++ rest) (before.length + i) = slice rest i := by
  simp only [slice, List.length_append, Nat.add_le_add_iff_left, List.drop_length_add_append]

/-- A slice of a text from behind a number of bytes is one of what follows them. -/
theorem sliceText_add (before rest : List UInt8) (i : Nat) :
    sliceText (before ++ rest) (before.length + i) = sliceText rest i := by
  rw [sliceText, sliceText, List.getElem?_append_right (Nat.le_add_right _ _),
    Nat.add_sub_cancel_left, slice_add]

/-- Bytes can be sliced where they are put together. -/
theorem slice_append (before rest : List UInt8) :
    slice (before ++ rest) before.length = .ok rest :=
  slice_add before rest 0

/-- Bytes can be sliced as a text where a text begins. -/
theorem sliceText_append (before : List UInt8) (s : Text) :
    sliceText (before ++ encode s) before.length = .ok (encode s) := by
  refine (sliceText_add before (encode s) 0).trans ?_
  cases s with
  | nil => rfl
  | cons c s =>
    obtain ⟨tail, hc, -⟩ := exists_lead c
    have hlead : (encode (c :: s))[0]? = some (leadByte c) := by
      rw [encode_cons, hc]
      rfl
    rw [sliceText, hlead]
    simp only
    rw [if_neg (not_continues_leadByte c)]
    rfl

/-- A text is refused inside of its first character. -/
theorem sliceText_inside {c : Char} {i : Nat} (hpos : 0 < i) (hi : i < c.utf8Size) (s : Text) :
    sliceText (encode (c :: s)) i = .error .insideCharacter := by
  obtain ⟨tail, hc, htail⟩ := exists_lead c
  have hlength : i < (String.utf8EncodeChar c).length := by rwa [String.length_utf8EncodeChar]
  obtain ⟨j, rfl⟩ := Nat.exists_eq_succ_of_ne_zero hpos.ne'
  rw [hc, List.length_cons, Nat.succ_lt_succ_iff] at hlength
  have hget : (encode (c :: s))[j + 1]? = some tail[j] := by
    rw [encode_cons, hc, List.cons_append, List.getElem?_cons_succ,
      List.getElem?_append_left hlength, List.getElem?_eq_getElem hlength]
  rw [sliceText, hget]
  simp only
  rw [if_pos (htail _ (List.getElem_mem hlength))]

/-- The bytes of a text can be sliced as a text exactly where one of its characters begins or it
ends. -/
theorem sliceText_eq_ok_iff {s : Text} {i : Nat} {rest : List UInt8} :
    sliceText (encode s) i = .ok rest ↔
      ∃ u t, s = u ++ t ∧ i = Text.byteLength u ∧ rest = encode t := by
  constructor
  · intro h
    induction s generalizing i with
    | nil =>
      have hi : i = 0 := by
        by_contra hne
        rw [sliceText, encode, List.flatMap_nil, List.getElem?_nil] at h
        simp only [slice, List.length_nil, Nat.le_zero, if_neg hne] at h
        cases h
      subst hi
      exact ⟨[], [], rfl, rfl, Except.ok.inj (h.symm.trans (sliceText_append [] []))⟩
    | cons c s ih =>
      by_cases hzero : i = 0
      · subst hzero
        exact ⟨[], c :: s, rfl, rfl, Except.ok.inj (h.symm.trans (sliceText_append [] (c :: s)))⟩
      · by_cases hi : i < c.utf8Size
        · rw [sliceText_inside (Nat.pos_of_ne_zero hzero) hi] at h
          cases h
        · -- The first character comes before the slice.
          obtain ⟨j, rfl⟩ := Nat.exists_eq_add_of_le (Nat.le_of_not_lt hi)
          rw [encode_cons, ← String.length_utf8EncodeChar, sliceText_add] at h
          obtain ⟨u, t, rfl, rfl, hrest⟩ := ih h
          exact ⟨c :: u, t, rfl, rfl, hrest⟩
  · rintro ⟨u, t, rfl, rfl, rfl⟩
    rw [encode_append, ← length_encode]
    exact sliceText_append _ _

/-! ## Looking for a text -/

section Position

variable {mark : Text}

/-- A mark is found at the front. -/
theorem position?_at_front {s : Text} (h : mark <+: s) :
    position? (encode mark) (encode s) = some 0 := by
  have hbytes : (encode mark).isPrefixOf (encode s) = true :=
    List.isPrefixOf_iff_prefix.2 (encode_prefix_iff.2 h)
  rw [position?]
  generalize encode s = bytes at hbytes
  cases bytes <;> rw [List.tails, List.findIdx?_cons, if_pos hbytes]

/-- In no bytes, only the empty mark is found. -/
theorem position?_nil (hmark : mark ≠ []) : position? (encode mark) [] = none := by
  have hne : encode mark ≠ [] := fun h => hmark (encode_injective h)
  simp [position?, hne]

/-- A mark that is not found at the front is looked for behind the first byte. -/
theorem position?_cons {bytes : List UInt8} {b : UInt8} (h : ¬ encode mark <+: b :: bytes) :
    position? (encode mark) (b :: bytes) = (position? (encode mark) bytes).map (· + 1) := by
  have hbytes : (encode mark).isPrefixOf (b :: bytes) = false :=
    Bool.eq_false_iff.2 (List.isPrefixOf_iff_prefix.not.2 h)
  simp [position?, List.findIdx?_cons, hbytes]

/-- A mark is not found inside of a character. -/
theorem position?_continues (hmark : mark ≠ []) {tail : List UInt8}
    (htail : ∀ b ∈ tail, Continues b) (rest : List UInt8) :
    position? (encode mark) (tail ++ rest)
      = (position? (encode mark) rest).map (· + tail.length) := by
  obtain ⟨m, mark, rfl⟩ := List.exists_cons_of_ne_nil hmark
  induction tail with
  | nil => simp
  | cons b tail ih =>
    obtain ⟨hb, htail⟩ := List.forall_mem_cons.1 htail
    obtain ⟨tail', hm, -⟩ := exists_lead m
    have hnot : ¬ encode (m :: mark) <+: b :: (tail ++ rest) := by
      rw [encode_cons, hm, List.cons_append, List.cons_prefix_cons]
      rintro ⟨rfl, -⟩
      exact not_continues_leadByte m hb
    rw [List.cons_append, position?_cons hnot, ih htail, Option.map_map]
    rfl

/-- A mark that is not found at the front is looked for behind the first character. -/
theorem position?_encode_cons (hmark : mark ≠ []) {c : Char} {s : Text} (h : ¬ mark <+: c :: s) :
    position? (encode mark) (encode (c :: s))
      = (position? (encode mark) (encode s)).map (· + c.utf8Size) := by
  obtain ⟨tail, hc, htail⟩ := exists_lead c
  have hsize : tail.length + 1 = c.utf8Size := by
    rw [← String.length_utf8EncodeChar, hc, List.length_cons]
  have hbytes : encode (c :: s) = leadByte c :: (tail ++ encode s) := by
    rw [encode_cons, hc, List.cons_append]
  have hnot : ¬ encode mark <+: leadByte c :: (tail ++ encode s) := by
    rwa [← hbytes, encode_prefix_iff]
  rw [hbytes, position?_cons hnot, position?_continues hmark htail, Option.map_map, ← hsize]
  rfl

end Position

end Stencil.Utf8
