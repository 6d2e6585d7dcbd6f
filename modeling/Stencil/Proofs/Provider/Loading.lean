import Mathlib
import Stencil.Proofs.Text.Decoding
import Stencil.Provider.Embed

/-!
# What is kept of a file

A file is embedded with its whole text, or with the first characters of it behind a banner
(`load_keeps`). The cut depends on the number of bytes, and what is kept of the text on the number
of characters; since no character stands for more than four bytes, a file that is cut short has more
characters than are kept, so that the banner is right about their number, and something is left out.
-/

namespace Stencil.Embedded

variable {p : Path} {bytes : List UInt8}

/-- What is embedded of a file is its text as far as it says so, and there is a warning for bytes
that are not UTF-8 and one for a file that is large. -/
structure Keeps (p : Path) (bytes : List UInt8) (file : Embedded) : Prop where
  size : file.size = bytes.length
  /-- A file that is not too large is kept as it is. -/
  whole : bytes.length ≤ 512000 →
    file.truncated = false ∧ file.content = Utf8.decodeLossy bytes
  /-- Of a larger one, a fixed number of characters is shown, and others are dropped. -/
  cut : 512000 < bytes.length →
    file.truncated = true ∧ ∃ shown dropped, Utf8.decodeLossy bytes = shown ++ dropped ∧
      shown.length = 50000 ∧ dropped ≠ [] ∧ file.content = banner p bytes.length ++ shown
  warnings : file.warnings.length
    = (if Utf8.WellFormed bytes then 0 else 1) + if 102400 < bytes.length then 1 else 0

/-- The text of a file that is cut short has more characters than are kept. -/
theorem charsKept_lt (h : truncateAbove < bytes.length) :
    charsKept < (Utf8.decodeLossy bytes).length := by
  have hfour := Utf8.length_le_decodeLossy bytes
  rw [truncateAbove] at h
  rw [charsKept]
  omega

/-- There is one warning for bytes that are not UTF-8. -/
theorem length_invalid (p : Path) (bytes : List UInt8) :
    (if (Utf8.decode? bytes).isSome then [] else [invalidWarning p]).length
      = if Utf8.WellFormed bytes then 0 else 1 := by
  by_cases h : Utf8.WellFormed bytes
  · rw [if_pos h, if_pos (Utf8.isSome_decode?_iff.2 h)]
    rfl
  · rw [if_neg h, if_neg (mt Utf8.isSome_decode?_iff.1 h)]
    rfl

/-- A file that is not too large is kept. -/
theorem keeps_ofBytes_of_le (h : bytes.length ≤ truncateAbove) :
    Keeps p bytes (ofBytes p bytes) := by
  have hcut : ¬ truncateAbove < bytes.length := Nat.not_lt.2 h
  refine ⟨?_, fun _ => ?_, fun hlarge => absurd hlarge hcut, ?_⟩
  · rw [ofBytes, if_neg hcut]
  · rw [ofBytes, if_neg hcut]
    exact ⟨rfl, rfl⟩
  · rw [ofBytes, if_neg hcut, List.length_append, length_invalid, warnAbove]
    by_cases hlarge : 102400 < bytes.length <;> simp [hlarge]

/-- A file that is too large is cut short. -/
theorem keeps_ofBytes_of_lt (h : truncateAbove < bytes.length) :
    Keeps p bytes (ofBytes p bytes) := by
  have hmore := charsKept_lt h
  have hlarge : 102400 < bytes.length := Nat.lt_trans (by decide) h
  refine ⟨?_, fun hsmall => absurd h (Nat.not_lt.2 hsmall), fun _ => ?_, ?_⟩
  · rw [ofBytes, if_pos h]
  · rw [ofBytes, if_pos h]
    refine ⟨rfl, _, (Utf8.decodeLossy bytes).drop charsKept, ?_, ?_, ?_, rfl⟩
    · exact (List.take_append_drop ..).symm
    · exact List.length_take_of_le (Nat.le_of_lt hmore)
    · exact mt List.drop_eq_nil_iff.1 (Nat.not_le.2 hmore)
  · rw [ofBytes, if_pos h, List.length_append, length_invalid, if_pos hlarge]
    rfl

/-- A byte more than is kept, and none of them can be in a text. -/
def flawedBytes : List UInt8 :=
  List.replicate 512001 0xff

/-- The number of these bytes. -/
theorem length_flawedBytes : flawedBytes.length = 512001 :=
  List.length_replicate

/-- No text has a form with such bytes. -/
theorem not_wellFormed_flawedBytes : ¬ Utf8.WellFormed flawedBytes := by
  rintro ⟨s, hs⟩
  cases s with
  | nil => cases length_flawedBytes.symm.trans (congrArg List.length hs)
  | cons c s =>
    have hfirst := UInt8.isUTF8FirstByte_getElem_zero_utf8EncodeChar (c := c)
    have hlength : 0 < (String.utf8EncodeChar c).length := by simp [c.utf8Size_pos]
    have hhead : (String.utf8EncodeChar c ++ Utf8.encode s)[0]? = some 0xff := by
      rw [← Utf8.encode_cons, ← hs]
      rfl
    rw [List.getElem?_append_left hlength, List.getElem?_eq_getElem hlength,
      Option.some.injEq] at hhead
    rw [hhead] at hfirst
    exact absurd hfirst (by decide)

end Stencil.Embedded
