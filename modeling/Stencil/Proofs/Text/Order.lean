import Stencil.Proofs.Text.Decoding

/-!
# The order of texts

Texts are in the order of their characters, which is that of their UTF-8 forms as bytes
(`le_iff_encode_le`). What decides is the first character that differs: the form of the greater
value has a greater first byte, or its first byte is the same and announces as many bytes, and then
one of these is greater before any other differs (`utf8EncodeChar_lt`).
-/

namespace Stencil

namespace Utf8

/-! ## The form of a value -/

/-- The number of bytes that follow the first one in the form of a value. -/
def following (v : Nat) : Nat :=
  if v < 0x80 then 0 else if v < 0x800 then 1 else if v < 0x10000 then 2 else 3

/-- What the first byte of a form has besides bits of the value, for a number of bytes that
follow. -/
def leadMark : Nat → Nat
  | 0 => 0
  | 1 => 0xc0
  | 2 => 0xe0
  | _ => 0xf0

/-- The number that is the first byte of the form of a value. -/
def leadNumber (v : Nat) : Nat :=
  v / 64 ^ following v + leadMark (following v)

/-- A value is in the range of those whose form has as many bytes. -/
theorem following_cases {v : Nat} (h : v < 0x110000) :
    (v < 0x80 ∧ following v = 0 ∧ leadNumber v = v) ∨
    (0x80 ≤ v ∧ v < 0x800 ∧ following v = 1 ∧ leadNumber v = v / 64 + 0xc0) ∨
    (0x800 ≤ v ∧ v < 0x10000 ∧ following v = 2 ∧ leadNumber v = v / 4096 + 0xe0) ∨
    (0x10000 ≤ v ∧ v < 0x110000 ∧ following v = 3 ∧ leadNumber v = v / 262144 + 0xf0) := by
  unfold leadNumber following
  split
  · exact .inl ⟨‹_›, rfl, by simp [leadMark]⟩
  split
  · exact .inr (.inl ⟨by omega, ‹_›, rfl, by simp [leadMark]⟩)
  split
  · exact .inr (.inr (.inl ⟨by omega, ‹_›, rfl, by simp [leadMark]⟩))
  · exact .inr (.inr (.inr ⟨by omega, h, rfl, by simp [leadMark]⟩))

/-- No value of a character is above the greatest one. -/
theorem lt_of_isValidChar {v : Nat} (h : v.isValidChar) : v < 0x110000 := by
  rcases h with h | h <;> omega

/-- The form of a character is its first byte and the ones that follow. -/
theorem utf8EncodeChar_eq (c : Char) :
    String.utf8EncodeChar c
      = UInt8.ofNat (leadNumber c.toNat) :: tailBytes (following c.toNat) c.toNat := by
  have hchar : Char.ofNat c.toNat = c := Char.ofNat_toNat c
  have hvalid : c.toNat.isValidChar := c.valid
  generalize c.toNat = v at hchar hvalid ⊢
  subst hchar
  rcases following_cases (lt_of_isValidChar hvalid) with
    ⟨h, hf, hl⟩ | ⟨hlow, hhigh, hf, hl⟩ | ⟨hlow, hhigh, hf, hl⟩ | ⟨hlow, hhigh, hf, hl⟩
  · rw [utf8EncodeChar_one h, hf, hl, tailBytes]
  · rw [(utf8EncodeChar_two hlow hhigh).2, hf, hl]
  · have hsurrogate : v < 0xd800 ∨ 0xdfff < v := hvalid.imp id And.left
    rw [(utf8EncodeChar_three hlow hhigh hsurrogate).2, hf, hl]
  · rw [(utf8EncodeChar_four hlow hhigh).2, hf, hl]

/-! ## Comparing forms -/

section Comparing

variable {v w : Nat}

/-- The greater of two values has the greater first byte, or both begin alike and are as long. -/
theorem leadNumber_lt (h : v < w) (hw : w < 0x110000) :
    leadNumber v < leadNumber w ∨ leadNumber v = leadNumber w ∧ following v = following w := by
  have hv := following_cases (Nat.lt_trans h hw)
  have hw := following_cases hw
  omega

/-- The first byte is a byte. -/
theorem leadNumber_lt_size (h : v < 0x110000) : leadNumber v < 256 := by
  have hv := following_cases h
  omega

/-- Bytes that are given by small numbers are in the order of the numbers. -/
theorem ofNat_lt {m n : Nat} (h : m < n) (hn : n < 256) : UInt8.ofNat m < UInt8.ofNat n := by
  rwa [UInt8.lt_iff_toNat_lt, toNat_ofNat (Nat.lt_trans h hn), toNat_ofNat hn]

/-- Of two values that agree in what is left of their last bytes, the greater one has the greater
last bytes, whatever follows them. -/
theorem tailBytes_lt {n : Nat} (h : v < w) (hhead : v / 64 ^ n = w / 64 ^ n) (x y : List UInt8) :
    tailBytes n v ++ x < tailBytes n w ++ y := by
  induction n with
  | zero =>
    rw [Nat.pow_zero, Nat.div_one, Nat.div_one] at hhead
    omega
  | succ n ih =>
    rw [Nat.pow_succ, ← Nat.div_div_eq_div_mul, ← Nat.div_div_eq_div_mul] at hhead
    -- With one byte more, either that byte decides, or the ones behind it do.
    have hle : v / 64 ^ n ≤ w / 64 ^ n := Nat.div_le_div_right (Nat.le_of_lt h)
    rw [tailBytes, tailBytes, List.cons_append, List.cons_append, List.cons_lt_cons_iff]
    rcases Nat.lt_or_eq_of_le hle with hlt | heq
    · exact .inl (ofNat_lt (by omega) (by omega))
    · exact .inr ⟨by rw [heq], ih heq⟩

/-- The form of the greater of two characters is the greater one, whatever follows. -/
theorem utf8EncodeChar_lt {c d : Char} (h : c.toNat < d.toNat) (x y : List UInt8) :
    String.utf8EncodeChar c ++ x < String.utf8EncodeChar d ++ y := by
  have hbound : d.toNat < 0x110000 := lt_of_isValidChar d.valid
  rw [utf8EncodeChar_eq, utf8EncodeChar_eq, List.cons_append, List.cons_append,
    List.cons_lt_cons_iff]
  rcases leadNumber_lt h hbound with hlead | ⟨hlead, hfollowing⟩
  · exact .inl (ofNat_lt hlead (leadNumber_lt_size hbound))
  · refine .inr ⟨by rw [hlead], ?_⟩
    -- The first bytes are the same, so that the values agree in the bits that stand in them.
    have hhead : c.toNat / 64 ^ following d.toNat = d.toNat / 64 ^ following d.toNat := by
      unfold leadNumber at hlead
      rw [hfollowing] at hlead
      exact Nat.add_right_cancel hlead
    rw [hfollowing]
    exact tailBytes_lt h hhead x y

end Comparing

end Utf8

namespace Text

/-- The order of texts is that of their UTF-8 forms. -/
theorem le_iff_encode_le (s t : Text) : le s t ↔ Utf8.encode s ≤ Utf8.encode t := by
  fun_induction le s t with
  | case1 t => exact iff_of_true rfl (List.nil_le _)
  | case2 c s =>
    refine iff_of_false Bool.false_ne_true fun h => ?_
    have hnil : Utf8.encode (c :: s) = Utf8.encode [] := List.le_nil.1 h
    cases Utf8.encode_injective hnil
  | case3 s d t ih =>
    rw [ih, Utf8.encode_cons, Utf8.encode_cons]
    exact ⟨List.append_left_le, fun h => List.not_lt.1 fun hlt => h (List.append_left_lt hlt)⟩
  | case4 c s d t hne =>
    rw [decide_eq_true_iff, Utf8.encode_cons, Utf8.encode_cons]
    constructor
    · exact fun h => List.le_of_lt (Utf8.utf8EncodeChar_lt h _ _)
    · intro h
      have hvalue : c.toNat ≠ d.toNat := fun heq => hne (Char.toNat_inj.1 heq)
      refine Nat.lt_of_not_le fun hge => h (Utf8.utf8EncodeChar_lt ?_ _ _)
      omega

variable {s t u : Text}

/-- The order of texts is transitive. -/
theorem le_trans (hst : le s t) (htu : le t u) : le s u := by
  rw [le_iff_encode_le] at *
  exact List.le_trans hst htu

/-- Any two texts are in order one way or the other. -/
theorem le_total (s t : Text) : le s t || le t s := by
  rw [Bool.or_eq_true, le_iff_encode_le, le_iff_encode_le]
  exact List.le_total _ _

/-- Of two different texts in order, the first one has the smaller form. -/
theorem encode_lt_of_le (h : le s t) (hne : s ≠ t) : Utf8.encode s < Utf8.encode t := by
  rw [le_iff_encode_le] at h
  exact (List.le_iff_lt_or_eq.1 h).resolve_right fun heq => hne (Utf8.encode_injective heq)

end Text

end Stencil
