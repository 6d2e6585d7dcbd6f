import Mathlib.Algebra.Group.Nat.Defs
import Stencil.Proofs.Text.Utf8

/-!
# What decoding makes of bytes

Decoding cuts bytes into the forms of characters and flaws of at most three bytes (`cut_chunks`).
Hence no character stands for more than four bytes (`length_le_decodeLossy`), and bytes are without
a flaw exactly if they are the UTF-8 form of a text (`decode?_eq_some_iff`).

The cut is an invariant of the decoder (`Reads`). While a sequence is open, the bytes that have been
read of it are the first ones of the form of every value that it can still come to (`Opens`).
-/

namespace Stencil.Utf8

/-- The last bytes of the form of a value, as many as are asked for. -/
def tailBytes : Nat → Nat → List UInt8
  | 0, _ => []
  | n + 1, v => UInt8.ofNat (v / 64 ^ n % 64 + 0x80) :: tailBytes n v

/-! ## Forms of values -/

section Forms

variable {v : Nat}

/-- The value of a character that is given by its value. -/
theorem toNat_char (h : v.isValidChar) : (Char.ofNat v).val.toNat = v := by
  rw [Char.ofNat, dif_pos h]
  rfl

/-- A value below 128 is written as one byte. -/
theorem utf8EncodeChar_one (h : v < 0x80) :
    String.utf8EncodeChar (Char.ofNat v) = [UInt8.ofNat v] := by
  rw [String.utf8EncodeChar, toNat_char (.inl (by omega)), if_pos (by omega)]

/-- A value of up to eleven bits is written as two bytes. -/
theorem utf8EncodeChar_two (hlow : 0x80 ≤ v) (hhigh : v < 0x800) :
    v.isValidChar ∧
      String.utf8EncodeChar (Char.ofNat v) = UInt8.ofNat (v / 64 + 0xc0) :: tailBytes 1 v := by
  have hvalid : v.isValidChar := .inl (by omega)
  refine ⟨hvalid, ?_⟩
  rw [String.utf8EncodeChar, toNat_char hvalid]
  simp only [tailBytes, Nat.pow_zero, Nat.div_one]
  rw [if_neg (by omega), if_pos (by omega), Nat.mod_eq_of_lt (a := v / 64) (by omega)]

/-- A value of up to sixteen bits that is no surrogate is written as three bytes. -/
theorem utf8EncodeChar_three (hlow : 0x800 ≤ v) (hhigh : v < 0x10000)
    (hsurrogate : v < 0xd800 ∨ 0xdfff < v) :
    v.isValidChar ∧
      String.utf8EncodeChar (Char.ofNat v) = UInt8.ofNat (v / 4096 + 0xe0) :: tailBytes 2 v := by
  have hvalid : v.isValidChar := hsurrogate.imp id fun h => ⟨h, by omega⟩
  refine ⟨hvalid, ?_⟩
  rw [String.utf8EncodeChar, toNat_char hvalid]
  simp only [tailBytes, Nat.pow_zero, Nat.div_one, Nat.pow_one]
  rw [if_neg (by omega), if_neg (by omega), if_pos (by omega),
    Nat.mod_eq_of_lt (a := v / 4096) (by omega)]

/-- A greater value is written as four bytes. -/
theorem utf8EncodeChar_four (hlow : 0x10000 ≤ v) (hhigh : v < 0x110000) :
    v.isValidChar ∧
      String.utf8EncodeChar (Char.ofNat v) = UInt8.ofNat (v / 262144 + 0xf0) :: tailBytes 3 v := by
  have hvalid : v.isValidChar := .inr ⟨by omega, by omega⟩
  refine ⟨hvalid, ?_⟩
  rw [String.utf8EncodeChar, toNat_char hvalid]
  simp only [tailBytes, Nat.pow_zero, Nat.div_one, Nat.pow_one, Nat.reducePow]
  rw [if_neg (by omega), if_neg (by omega), if_neg (by omega),
    Nat.mod_eq_of_lt (a := v / 262144) (by omega)]

end Forms

/-! ## Open sequences -/

/-- The bytes that have been read of an open sequence are the first ones of the form of every value
that it can come to. -/
structure Opens (p : Pending) (seq : List UInt8) : Prop where
  missing_pos : 0 < p.missing
  length_add : seq.length + p.missing ≤ 4
  low_ge : 0x80 ≤ p.low.toNat
  high_le : p.high.toNat ≤ 0xbf
  completes : ∀ v, v / 64 ^ p.missing = p.bits →
    p.low.toNat ≤ v / 64 ^ (p.missing - 1) % 64 + 0x80 →
    v / 64 ^ (p.missing - 1) % 64 + 0x80 ≤ p.high.toNat →
    v.isValidChar ∧ String.utf8EncodeChar (Char.ofNat v) = seq ++ tailBytes p.missing v

/-- A byte is the one that is given by its number. -/
theorem eq_ofNat {b : UInt8} {n : Nat} (h : n = b.toNat) : UInt8.ofNat n = b := by
  rw [h, UInt8.ofNat_toNat]

section Lead

variable {b : UInt8}

/-- A byte that begins a sequence of two opens it. -/
theorem opens_two (hlow : 0xc2 ≤ b.toNat) (hhigh : b.toNat < 0xe0) :
    Opens ⟨1, 0x80, 0xbf, b.toNat - 0xc0⟩ [b] := by
  refine ⟨Nat.one_pos, by simp, by simp, by simp, fun v hv _ _ => ?_⟩
  simp only [Nat.pow_one] at hv
  obtain ⟨hvalid, hform⟩ := utf8EncodeChar_two (v := v) (by omega) (by omega)
  exact ⟨hvalid, by rw [hform, eq_ofNat (b := b) (by omega)]; rfl⟩

/-- A byte that begins a sequence of three opens it, if the second byte is restricted so that the
value has no shorter form and is no surrogate. -/
theorem opens_three {low high : UInt8} (hlow : 0xe0 ≤ b.toNat) (hhigh : b.toNat < 0xf0)
    (hfrom : 0x80 ≤ low.toNat) (hto : high.toNat ≤ 0xbf)
    (hshort : b.toNat = 0xe0 → 0xa0 ≤ low.toNat)
    (hsurrogate : b.toNat = 0xed → high.toNat ≤ 0x9f) :
    Opens ⟨2, low, high, b.toNat - 0xe0⟩ [b] := by
  refine ⟨Nat.two_pos, by simp, hfrom, hto, fun v hv hge hle => ?_⟩
  simp only [Nat.reducePow, Nat.reduceSub, Nat.pow_one] at hv hge hle
  obtain ⟨hvalid, hform⟩ :=
    utf8EncodeChar_three (v := v) (by omega) (by omega) (by omega)
  exact ⟨hvalid, by rw [hform, eq_ofNat (b := b) (by omega)]; rfl⟩

/-- A byte that begins a sequence of four opens it, if the second byte is restricted so that the
value has no shorter form and is the one of a character. -/
theorem opens_four {low high : UInt8} (hlow : 0xf0 ≤ b.toNat) (hhigh : b.toNat ≤ 0xf4)
    (hfrom : 0x80 ≤ low.toNat) (hto : high.toNat ≤ 0xbf)
    (hshort : b.toNat = 0xf0 → 0x90 ≤ low.toNat)
    (hlast : b.toNat = 0xf4 → high.toNat ≤ 0x8f) :
    Opens ⟨3, low, high, b.toNat - 0xf0⟩ [b] := by
  refine ⟨Nat.succ_pos 2, by simp, hfrom, hto, fun v hv hge hle => ?_⟩
  simp only [Nat.reducePow, Nat.reduceSub] at hv hge hle
  obtain ⟨hvalid, hform⟩ := utf8EncodeChar_four (v := v) (by omega) (by omega)
  exact ⟨hvalid, by rw [hform, eq_ofNat (b := b) (by omega)]; rfl⟩

/-- What the first byte says is so: it is the form of a character, or it opens a sequence. -/
inductive Begins (b : UInt8) : Lead → Prop
  | char {c : Char} (h : String.utf8EncodeChar c = [b]) : Begins b (.char c)
  | sequence {p : Pending} (h : Opens p [b]) : Begins b (.sequence p)
  | flaw : Begins b .flaw

/-- The decoder is told by a byte what it begins. -/
theorem begins_lead (b : UInt8) : Begins b (lead b) := by
  rw [lead]
  split
  · rename_i hone
    exact .char (by rw [utf8EncodeChar_one hone, UInt8.ofNat_toNat])
  split
  · exact .flaw
  split
  · exact .sequence (opens_two (by omega) (by omega))
  split
  · rename_i heq
    have hopens : Opens ⟨2, 0xa0, 0xbf, b.toNat - 0xe0⟩ [b] :=
      opens_three (by omega) (by omega) (by decide) (by decide) (fun _ => by decide) (by omega)
    rw [heq] at hopens
    exact .sequence hopens
  split
  · exact .sequence (opens_three (by omega) (by omega) (by decide) (by decide) (by omega)
      fun _ => by decide)
  split
  · exact .sequence (opens_three (by omega) (by omega) (by decide) (by decide) (by omega)
      (by omega))
  split
  · rename_i heq
    have hopens : Opens ⟨3, 0x90, 0xbf, b.toNat - 0xf0⟩ [b] :=
      opens_four (by omega) (by omega) (by decide) (by decide) (fun _ => by decide) (by omega)
    rw [heq] at hopens
    exact .sequence hopens
  split
  · exact .sequence (opens_four (by omega) (by omega) (by decide) (by decide) (by omega)
      (by omega))
  split
  · exact .sequence (opens_four (by omega) (by omega) (by decide) (by decide) (by omega)
      fun _ => by decide)
  · exact .flaw

end Lead

section Continue

variable {p : Pending} {seq : List UInt8} {b : UInt8}

/-- The last byte that is missing completes the form of the character that is read. -/
theorem Opens.encode_complete (h : Opens p seq) (hlow : p.low ≤ b) (hhigh : b ≤ p.high)
    (hlast : p.missing ≤ 1) :
    String.utf8EncodeChar (Char.ofNat (p.bits * 64 + (b.toNat - 0x80))) = seq ++ [b] := by
  obtain ⟨hpos, -, hge, hle, hcompletes⟩ := h
  rw [UInt8.le_iff_toNat_le] at hlow hhigh
  have hone : p.missing = 1 := by omega
  rw [hone] at hcompletes
  simp only [Nat.pow_one, Nat.sub_self, Nat.pow_zero, Nat.div_one, tailBytes] at hcompletes
  obtain ⟨-, hform⟩ := hcompletes (p.bits * 64 + (b.toNat - 0x80)) (by omega) (by omega) (by omega)
  rw [hform, eq_ofNat (b := b) (by omega)]

/-- Another byte that is missing leaves the sequence open. -/
theorem Opens.next (h : Opens p seq) (hlow : p.low ≤ b) (hhigh : b ≤ p.high)
    (hmore : ¬ p.missing ≤ 1) :
    Opens ⟨p.missing - 1, 0x80, 0xbf, p.bits * 64 + (b.toNat - 0x80)⟩ (seq ++ [b]) := by
  obtain ⟨hpos, hlength, hge, hle, hcompletes⟩ := h
  rw [UInt8.le_iff_toNat_le] at hlow hhigh
  obtain ⟨k, hk⟩ : ∃ k, p.missing = k + 2 := ⟨p.missing - 2, by omega⟩
  rw [hk] at hcompletes ⊢
  refine ⟨by simp, by simp; omega, by simp, by simp, fun v hv _ _ => ?_⟩
  simp only [Nat.add_one_sub_one] at hv hcompletes ⊢
  have hbits : v / 64 ^ (k + 2) = p.bits := by
    rw [Nat.pow_succ, ← Nat.div_div_eq_div_mul, hv]
    omega
  have hb : v / 64 ^ (k + 1) % 64 + 0x80 = b.toNat := by omega
  obtain ⟨hvalid, hform⟩ := hcompletes v hbits (by omega) (by omega)
  refine ⟨hvalid, ?_⟩
  rw [hform, tailBytes, eq_ofNat hb, List.append_assoc, List.singleton_append]

end Continue

/-! ## The cut -/

/-- The bytes are put together from forms of characters and flaws of at most three bytes, given the
last one first. -/
inductive Cut : List UInt8 → List (Option Char) → Prop
  | nil : Cut [] []
  | char {before : List UInt8} {done : List (Option Char)} (c : Char) (h : Cut before done) :
      Cut (before ++ String.utf8EncodeChar c) (some c :: done)
  | flaw {before seq : List UInt8} {done : List (Option Char)} (hseq : seq.length ≤ 3)
      (h : Cut before done) : Cut (before ++ seq) (none :: done)

/-- The decoder has read the bytes: they are cut into what is done and the sequence that is open. -/
inductive Reads : List UInt8 → Decoder → Prop
  | idle {bytes : List UInt8} {done : List (Option Char)} (h : Cut bytes done) :
      Reads bytes ⟨done, none⟩
  | busy {before seq : List UInt8} {done : List (Option Char)} {p : Pending}
      (h : Cut before done) (hseq : Opens p seq) : Reads (before ++ seq) ⟨done, some p⟩

/-- A byte is read where no sequence is open. -/
theorem reads_start {bytes : List UInt8} {done : List (Option Char)} (h : Cut bytes done)
    (b : UInt8) : Reads (bytes ++ [b]) (Decoder.start done b) := by
  have hlead := begins_lead b
  rw [Decoder.start]
  generalize lead b = l at hlead
  cases hlead with
  | @char c hform => exact .idle (hform ▸ .char c h)
  | sequence hseq => exact .busy h hseq
  | flaw => exact .idle (.flaw (by simp) h)

/-- A byte is read. -/
theorem Reads.step {bytes : List UInt8} {d : Decoder} (h : Reads bytes d) (b : UInt8) :
    Reads (bytes ++ [b]) (d.step b) := by
  cases h with
  | idle h => exact reads_start h b
  | @busy before seq done p h hseq =>
    rw [Decoder.step]
    simp only
    split
    · rename_i hin
      rw [List.append_assoc]
      split
      · rename_i hlast
        rw [← hseq.encode_complete hin.1 hin.2 hlast]
        exact .idle (.char _ h)
      · rename_i hmore
        exact .busy h (hseq.next hin.1 hin.2 hmore)
    · -- The byte ends the sequence, which is a flaw, and is read again.
      have hlength := hseq.length_add
      have hpos := hseq.missing_pos
      exact reads_start (.flaw (by omega) h) b

/-- All bytes are read. -/
theorem Reads.foldl {before : List UInt8} {d : Decoder} (h : Reads before d) (bytes : List UInt8) :
    Reads (before ++ bytes) (bytes.foldl Decoder.step d) := by
  induction bytes generalizing before d with
  | nil => rwa [List.append_nil]
  | cons b bytes ih =>
    rw [List.foldl_cons, List.append_cons]
    exact ih (h.step b)

/-- Decoding cuts the bytes. -/
theorem cut_chunks (bytes : List UInt8) : Cut bytes (chunks bytes).reverse := by
  have hreads : Reads bytes (bytes.foldl Decoder.step {}) := (Reads.idle .nil).foldl bytes
  rw [chunks, Decoder.finish]
  generalize bytes.foldl Decoder.step {} = d at hreads
  cases hreads with
  | idle h => simpa using h
  | busy h hseq =>
    have hlength := hseq.length_add
    have hpos := hseq.missing_pos
    simpa using Cut.flaw (by omega) h

/-- No part of a cut has more than four bytes. -/
theorem Cut.length_le {bytes : List UInt8} {done : List (Option Char)} (h : Cut bytes done) :
    bytes.length ≤ 4 * done.length := by
  induction h with
  | nil => simp
  | char c _ ih =>
    have hc := c.utf8Size_le_four
    rw [List.length_append, String.length_utf8EncodeChar, List.length_cons]
    omega
  | flaw hseq _ ih =>
    rw [List.length_append, List.length_cons]
    omega

/-- Bytes that are cut without a flaw are the form of the text. -/
theorem Cut.eq_encode {bytes : List UInt8} {done : List (Option Char)} (h : Cut bytes done)
    (hdone : done.all Option.isSome) : bytes = encode (done.reverse.filterMap id) := by
  induction h with
  | nil => rfl
  | char c _ ih =>
    rw [List.all_cons, Bool.and_eq_true] at hdone
    rw [ih hdone.2]
    simp [encode]
  | flaw => simp at hdone

/-! ## Decoding -/

/-- No character of what is decoded stands for more than four bytes. -/
theorem length_le_decodeLossy (bytes : List UInt8) :
    bytes.length ≤ 4 * (decodeLossy bytes).length := by
  simpa [decodeLossy] using (cut_chunks bytes).length_le

/-- Bytes that are the form of a text. -/
def WellFormed (bytes : List UInt8) : Prop :=
  ∃ s, bytes = encode s

/-- Bytes are decoded to a text exactly if they are its UTF-8 form. -/
theorem decode?_eq_some_iff {bytes : List UInt8} {s : Text} :
    decode? bytes = some s ↔ bytes = encode s := by
  constructor
  · intro h
    simp only [decode?, Option.ite_none_right_eq_some, Option.some.injEq] at h
    obtain ⟨hall, rfl⟩ := h
    have hbytes := (cut_chunks bytes).eq_encode (by rwa [List.all_reverse])
    rwa [List.reverse_reverse] at hbytes
  · rintro rfl
    exact decode?_encode s

/-- Bytes are decoded exactly if they are the form of a text. -/
theorem isSome_decode?_iff {bytes : List UInt8} : (decode? bytes).isSome ↔ WellFormed bytes := by
  rw [Option.isSome_iff_exists]
  exact exists_congr fun s => decode?_eq_some_iff

instance (bytes : List UInt8) : Decidable (WellFormed bytes) :=
  decidable_of_iff _ isSome_decode?_iff

end Stencil.Utf8
