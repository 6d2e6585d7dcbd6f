import Stencil.Text.Utf8

/-!
# Encoding and decoding

Decoding the UTF-8 form of a text gives the text back (`decode?_encode`), so that no two texts have
the same form (`encode_injective`). Since a character does not begin inside another one, what ends
in the bytes of a text ends in the text (`exists_append_of_encode_eq`).
-/

namespace Stencil.Utf8

/-- The bytes of the first character come first. -/
theorem encode_cons (c : Char) (s : Text) :
    encode (c :: s) = String.utf8EncodeChar c ++ encode s := rfl

/-- The UTF-8 form has as many bytes as the text is said to have. -/
theorem length_encode (s : Text) : (encode s).length = Text.byteLength s := by
  induction s with
  | nil => rfl
  | cons c s ih =>
    rw [encode_cons, List.length_append, String.length_utf8EncodeChar, ih, Text.byteLength_cons]

/-! ## Decoding what was encoded -/

/-- A byte in the range that is expected goes on with the sequence. -/
theorem step_pending {done : List (Option Char)} {p : Pending} {b : UInt8}
    (hlow : p.low ≤ b) (hhigh : b ≤ p.high) :
    Decoder.step ⟨done, some p⟩ b
      = if p.missing ≤ 1 then
          ⟨some (Char.ofNat (p.bits * 64 + (b.toNat - 0x80))) :: done, none⟩
        else
          ⟨done, some ⟨p.missing - 1, 0x80, 0xbf, p.bits * 64 + (b.toNat - 0x80)⟩⟩ := by
  rw [Decoder.step]
  exact if_pos ⟨hlow, hhigh⟩

/-- A byte that begins a sequence opens it. -/
theorem step_lead {done : List (Option Char)} {p : Pending} {b : UInt8}
    (h : lead b = .sequence p) : Decoder.step ⟨done, none⟩ b = ⟨done, some p⟩ := by
  rw [Decoder.step]
  simp only [Decoder.start, h]

/-- The value of a byte that is given by a small number. -/
theorem toNat_ofNat {n : Nat} (h : n < 256) : (UInt8.ofNat n).toNat = n :=
  UInt8.toNat_ofNat_of_lt' h

/-- A byte that is given by a small number is in a range if the number is. -/
theorem ofNat_mem_range {low high : UInt8} {n : Nat} (hlow : low.toNat ≤ n)
    (hhigh : n ≤ high.toNat) : low ≤ UInt8.ofNat n ∧ UInt8.ofNat n ≤ high := by
  rw [UInt8.le_iff_toNat_le, UInt8.le_iff_toNat_le,
    toNat_ofNat (Nat.lt_of_le_of_lt hhigh high.toNat_lt)]
  exact ⟨hlow, hhigh⟩

/-- A byte that goes on with a sequence is in the wide range. -/
theorem continues_wide {n : Nat} (h : n < 64) :
    (0x80 : UInt8) ≤ UInt8.ofNat (n + 0x80) ∧ UInt8.ofNat (n + 0x80) ≤ 0xbf :=
  ofNat_mem_range (Nat.le_add_left 0x80 n) (Nat.add_le_add_right (Nat.le_of_lt_succ h) 0x80)

/-- The first byte of a sequence of three opens one that the second byte goes on with. -/
theorem lead_three {v : Nat} (hlow : 0x800 ≤ v) (hhigh : v < 0x10000)
    (hsurrogate : v < 0xd800 ∨ 0xdfff < v) :
    ∃ low high, lead (UInt8.ofNat (v / 4096 % 0x10 + 0xe0)) = .sequence ⟨2, low, high, v / 4096⟩ ∧
      low ≤ UInt8.ofNat (v / 64 % 0x40 + 0x80) ∧ UInt8.ofNat (v / 64 % 0x40 + 0x80) ≤ high := by
  have hmod : v / 4096 % 0x10 = v / 4096 := by omega
  have hbits : v / 4096 + 0xe0 - 0xe0 = v / 4096 := by omega
  have hwide := continues_wide (n := v / 64 % 0x40) (by omega)
  rw [hmod, lead, toNat_ofNat (by omega)]
  simp only [hbits]
  rw [if_neg (by omega), if_neg (by omega), if_neg (by omega)]
  by_cases hzero : v / 4096 + 0xe0 = 0xe0
  · -- Smaller values have shorter forms.
    rw [if_pos hzero, show v / 4096 = 0 by omega]
    have hlow' : 0xa0 ≤ v / 64 % 0x40 + 0x80 := by omega
    exact ⟨_, _, rfl, ofNat_mem_range hlow' (by simp; omega)⟩
  · rw [if_neg hzero]
    by_cases hed : v / 4096 + 0xe0 = 0xed
    · rw [if_pos hed]
      have hhigh' : v / 64 % 0x40 + 0x80 ≤ 0x9f := by omega
      exact ⟨_, _, rfl, ofNat_mem_range (by simp) hhigh'⟩
    · rw [if_neg hed, if_pos (by omega)]
      exact ⟨_, _, rfl, hwide⟩

/-- The first byte of a sequence of four opens one that the second byte goes on with. -/
theorem lead_four {v : Nat} (hlow : 0x10000 ≤ v) (hhigh : v < 0x110000) :
    ∃ low high, lead (UInt8.ofNat (v / 262144 % 0x08 + 0xf0))
        = .sequence ⟨3, low, high, v / 262144⟩ ∧
      low ≤ UInt8.ofNat (v / 4096 % 0x40 + 0x80) ∧
      UInt8.ofNat (v / 4096 % 0x40 + 0x80) ≤ high := by
  have hmod : v / 262144 % 0x08 = v / 262144 := by omega
  have hbits : v / 262144 + 0xf0 - 0xf0 = v / 262144 := by omega
  have hwide := continues_wide (n := v / 4096 % 0x40) (by omega)
  rw [hmod, lead, toNat_ofNat (by omega)]
  simp only [hbits]
  rw [if_neg (by omega), if_neg (by omega), if_neg (by omega), if_neg (by omega),
    if_neg (by omega), if_neg (by omega)]
  by_cases hzero : v / 262144 + 0xf0 = 0xf0
  · rw [if_pos hzero, show v / 262144 = 0 by omega]
    have hlow' : 0x90 ≤ v / 4096 % 0x40 + 0x80 := by omega
    exact ⟨_, _, rfl, ofNat_mem_range hlow' (by simp; omega)⟩
  · rw [if_neg hzero]
    by_cases hfour : v / 262144 + 0xf0 < 0xf4
    · rw [if_pos hfour]
      exact ⟨_, _, rfl, hwide⟩
    · rw [if_neg hfour, if_pos (by omega)]
      have hhigh' : v / 4096 % 0x40 + 0x80 ≤ 0x8f := by omega
      exact ⟨_, _, rfl, ofNat_mem_range (by simp) hhigh'⟩

/-- The decoder reads a character from its UTF-8 form. -/
theorem foldl_step_char (done : List (Option Char)) (c : Char) :
    (String.utf8EncodeChar c).foldl Decoder.step ⟨done, none⟩ = ⟨some c :: done, none⟩ := by
  have hvalid : c.toNat < 0xd800 ∨ 0xdfff < c.toNat ∧ c.toNat < 0x110000 := c.valid
  have hc : Char.ofNat c.toNat = c := Char.ofNat_toNat c
  unfold String.utf8EncodeChar
  rw [show c.val.toNat = c.toNat from rfl]
  generalize c.toNat = v at hvalid hc
  simp only
  split
  · rw [List.foldl_cons, List.foldl_nil, Decoder.step]
    simp only [Decoder.start]
    rw [lead, toNat_ofNat (by omega), if_pos (by omega), hc]
  · split
    · have hmod : v / 64 % 0x20 = v / 64 := by omega
      have hlead : lead (UInt8.ofNat (v / 64 % 0x20 + 0xc0))
          = .sequence ⟨1, 0x80, 0xbf, v / 64⟩ := by
        rw [hmod, lead, toNat_ofNat (by omega), if_neg (by omega), if_neg (by omega),
          if_pos (by omega), Nat.add_sub_cancel]
      have hwide := continues_wide (n := v % 0x40) (by omega)
      have hbits : v / 64 * 64 + (v % 0x40 + 0x80 - 0x80) = v := by omega
      rw [List.foldl_cons, List.foldl_cons, List.foldl_nil, step_lead hlead,
        step_pending hwide.1 hwide.2, if_pos (by simp), toNat_ofNat (by omega), hbits, hc]
    · split
      · obtain ⟨low, high, hlead, hlow, hhigh⟩ :=
          lead_three (v := v) (by omega) (by omega) (by omega)
        have hwide := continues_wide (n := v % 0x40) (by omega)
        have hbits : (v / 4096 * 64 + (v / 64 % 0x40 + 0x80 - 0x80)) * 64
            + (v % 0x40 + 0x80 - 0x80) = v := by omega
        rw [List.foldl_cons, List.foldl_cons, List.foldl_cons, List.foldl_nil, step_lead hlead,
          step_pending hlow hhigh, if_neg (by simp), step_pending hwide.1 hwide.2,
          if_pos (by simp), toNat_ofNat (by omega), toNat_ofNat (by omega), hbits, hc]
      · obtain ⟨low, high, hlead, hlow, hhigh⟩ := lead_four (v := v) (by omega) (by omega)
        have hwide := continues_wide (n := v / 64 % 0x40) (by omega)
        have hwide' := continues_wide (n := v % 0x40) (by omega)
        have hbits : ((v / 262144 * 64 + (v / 4096 % 0x40 + 0x80 - 0x80)) * 64
            + (v / 64 % 0x40 + 0x80 - 0x80)) * 64 + (v % 0x40 + 0x80 - 0x80) = v := by omega
        rw [List.foldl_cons, List.foldl_cons, List.foldl_cons, List.foldl_cons, List.foldl_nil,
          step_lead hlead, step_pending hlow hhigh, if_neg (by simp),
          step_pending hwide.1 hwide.2, if_neg (by simp), step_pending hwide'.1 hwide'.2,
          if_pos (by simp), toNat_ofNat (by omega), toNat_ofNat (by omega),
          toNat_ofNat (by omega), hbits, hc]

/-- The decoder reads a text from its UTF-8 form. -/
theorem foldl_step_encode (done : List (Option Char)) (s : Text) :
    (encode s).foldl Decoder.step ⟨done, none⟩ = ⟨(s.map some).reverse ++ done, none⟩ := by
  induction s generalizing done with
  | nil => rfl
  | cons c s ih =>
    rw [encode_cons, List.foldl_append, foldl_step_char, ih, List.map_cons, List.reverse_cons,
      List.append_assoc, List.singleton_append]

/-- Decoding gives back what was encoded. -/
theorem decode?_encode (s : Text) : decode? (encode s) = some s := by
  have hchunks : chunks (encode s) = s.map some := by
    rw [chunks, foldl_step_encode]
    simp [Decoder.finish]
  rw [decode?]
  simp [hchunks]

/-- No two texts have the same UTF-8 form. -/
theorem encode_injective {s t : Text} (h : encode s = encode t) : s = t :=
  Option.some.inj (by rw [← decode?_encode s, h, decode?_encode])

/-! ## Bytes at the end -/

/-- What ends in the bytes of a text ends in the text. -/
theorem exists_append_of_encode_eq {s t : Text} {before : List UInt8}
    (h : encode s = before ++ encode t) : ∃ s', s = s' ++ t := by
  induction s generalizing before with
  | nil =>
    obtain ⟨-, ht⟩ := List.append_eq_nil_iff.1 h.symm
    exact ⟨[], encode_injective ht.symm⟩
  | cons c s ih =>
    cases t with
    | nil => exact ⟨c :: s, (List.append_nil _).symm⟩
    | cons d t =>
      by_cases hnil : before = []
      · subst hnil
        exact ⟨[], encode_injective h⟩
      · by_cases hlength : (String.utf8EncodeChar c).length ≤ before.length
        · -- The first character comes before what is looked for.
          rw [encode_cons] at h
          have hbefore : before <+: String.utf8EncodeChar c ++ encode s := ⟨_, h.symm⟩
          obtain ⟨between, rfl⟩ :=
            List.prefix_of_prefix_length_le (List.prefix_append _ _) hbefore hlength
          rw [List.append_assoc] at h
          obtain ⟨s', rfl⟩ := ih (List.append_cancel_left h)
          exact ⟨c :: s', rfl⟩
        · -- Only the first byte of a character is one that a character can begin with.
          have hlt := Nat.lt_of_not_le hlength
          have hget : (encode (c :: s))[before.length]?
              = (before ++ encode (d :: t))[before.length]? := by rw [h]
          rw [encode_cons, List.getElem?_append_left hlt,
            List.getElem?_append_right (Nat.le_refl _), Nat.sub_self, encode_cons,
            List.getElem?_append_left (by simp [d.utf8Size_pos]), List.getElem?_eq_getElem hlt,
            List.getElem?_eq_getElem (by simp [d.utf8Size_pos])] at hget
          have hfirst := UInt8.isUTF8FirstByte_getElem_zero_utf8EncodeChar (c := d)
          rw [← Option.some.inj hget, UInt8.isUTF8FirstByte_getElem_utf8EncodeChar] at hfirst
          exact absurd (List.length_eq_zero_iff.1 hfirst) hnil

end Stencil.Utf8
