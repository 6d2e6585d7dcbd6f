import Stencil.Text.Basic

/-!
# UTF-8

Bytes to text and back. Decoding reads one byte at a time. A byte that cannot continue the sequence
begun before it ends that sequence, and each maximal beginning of a sequence that is not completed
counts as one flaw. Strict decoding fails at a flaw and lossy decoding shows it as U+FFFD, so both
agree on well-formed input.
-/

namespace Stencil.Utf8

/-- The UTF-8 form of a text. -/
def encode (s : Text) : List UInt8 :=
  s.flatMap String.utf8EncodeChar

/-- A sequence that has begun: how many bytes are missing, which values the next byte may take, and
the bits read so far. -/
structure Pending where
  missing : Nat
  low : UInt8
  high : UInt8
  bits : Nat

/-- What a byte says about the sequence that it begins. -/
inductive Lead
  | char (c : Char)
  | sequence (p : Pending)
  | flaw

/-- Reads the first byte of a sequence. The second byte is restricted so that overlong forms,
surrogates and values above U+10FFFF are flaws. -/
def lead (b : UInt8) : Lead :=
  let n := b.toNat
  if n < 0x80 then .char (Char.ofNat n)
  else if n < 0xc2 then .flaw
  else if n < 0xe0 then .sequence ⟨1, 0x80, 0xbf, n - 0xc0⟩
  else if n = 0xe0 then .sequence ⟨2, 0xa0, 0xbf, 0⟩
  else if n = 0xed then .sequence ⟨2, 0x80, 0x9f, n - 0xe0⟩
  else if n < 0xf0 then .sequence ⟨2, 0x80, 0xbf, n - 0xe0⟩
  else if n = 0xf0 then .sequence ⟨3, 0x90, 0xbf, 0⟩
  else if n < 0xf4 then .sequence ⟨3, 0x80, 0xbf, n - 0xf0⟩
  else if n = 0xf4 then .sequence ⟨3, 0x80, 0x8f, n - 0xf0⟩
  else .flaw

/-- The state of a decoder: the characters and flaws (`none`) so far, the last one first, and the
sequence that is being read. -/
structure Decoder where
  done : List (Option Char) := []
  pending : Option Pending := none

namespace Decoder

/-- Reads a byte where no sequence is open. -/
def start (done : List (Option Char)) (b : UInt8) : Decoder :=
  match lead b with
  | .char c => ⟨some c :: done, none⟩
  | .sequence p => ⟨done, some p⟩
  | .flaw => ⟨none :: done, none⟩

/-- Reads one byte. -/
def step (d : Decoder) (b : UInt8) : Decoder :=
  match d.pending with
  | none => start d.done b
  | some p =>
    if p.low ≤ b ∧ b ≤ p.high then
      let bits := p.bits * 64 + (b.toNat - 0x80)
      if p.missing ≤ 1 then ⟨some (Char.ofNat bits) :: d.done, none⟩
      else ⟨d.done, some ⟨p.missing - 1, 0x80, 0xbf, bits⟩⟩
    else start (none :: d.done) b

/-- The characters and flaws in order; an open sequence at the end is a flaw. -/
def finish (d : Decoder) : List (Option Char) :=
  match d.pending with
  | none => d.done.reverse
  | some _ => (none :: d.done).reverse

end Decoder

/-- The characters and flaws (`none`) of a byte sequence. -/
def chunks (bytes : List UInt8) : List (Option Char) :=
  (bytes.foldl Decoder.step {}).finish

/-- The text of well-formed bytes. -/
def decode? (bytes : List UInt8) : Option Text :=
  let cs := chunks bytes
  if cs.all Option.isSome then some (cs.filterMap id) else none

/-- The text of any bytes, with U+FFFD for each flaw. -/
def decodeLossy (bytes : List UInt8) : Text :=
  (chunks bytes).map (·.getD '\uFFFD')

/-- On well-formed bytes, strict and lossy decoding agree. -/
theorem decodeLossy_of_decode? {bytes : List UInt8} {s : Text} (h : decode? bytes = some s) :
    decodeLossy bytes = s := by
  simp only [decode?, Option.ite_none_right_eq_some, Option.some.injEq] at h
  obtain ⟨hall, rfl⟩ := h
  rw [decodeLossy]
  generalize chunks bytes = cs at hall ⊢
  induction cs with
  | nil => rfl
  | cons x xs ih =>
    cases x with
    | none => simp at hall
    | some c => simp_all

end Stencil.Utf8
