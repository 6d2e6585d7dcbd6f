import Mathlib.Data.List.TakeWhile
import Stencil.Document.Numbering
import Stencil.Proofs.Document.Naming

/-!
# Numbers that are read off names

The number of a file is written into its name (`numberedName`) and read off the names in a directory
(`numberOf?`), and the two agree: a name counts with a number exactly if it is this number in three
digits or more, a hyphen, anything without a line feed, and the extension (`numberOf?_eq_some_iff`).
A numbered name has this form (`bears_numberedName`), so that it counts unless there is a line feed
in the name of the document. The next number of a directory is one above all that count
(`le_highest`, `exists_highest`).
-/

namespace Stencil

/-! ## Digits -/

/-- Zeros before digits do not matter. -/
theorem Text.digitsValue_zeros_append (k : Nat) (ds : Text) :
    Text.digitsValue (List.replicate k '0' ++ ds) = Text.digitsValue ds := by
  induction k with
  | zero => rfl
  | succ k ih => exact ih

/-- A padded number denotes the number. -/
theorem Text.digitsValue_ofNatPadded (width n : Nat) :
    Text.digitsValue (Text.ofNatPadded width n) = n := by
  have hpadded : Text.ofNatPadded width n
      = List.replicate (width - (Text.ofNat n).length) '0' ++ Text.ofNat n := rfl
  rw [hpadded, digitsValue_zeros_append, digitsValue_ofNat]

namespace Numbering

variable {extension name middle : Text} {m n : Nat}

/-! ## Names with a number -/

/-- The name is a number below the limit in three digits or more, a hyphen, anything, and the
extension. -/
structure Bears (extension name : Text) (number : Nat) (middle : Text) : Prop where
  lt_limit : number < limit
  form : ∃ digits, name = digits ++ '-' :: (middle ++ '.' :: extension) ∧ 3 ≤ digits.length ∧
    (∀ c ∈ digits, c.isDigit) ∧ Text.digitsValue digits = number

/-- The name has a number and what stands behind it is in one line. -/
def Counts (extension name : Text) (number : Nat) : Prop :=
  ∃ middle, Bears extension name number middle ∧ '\n' ∉ middle

/-- The digits before a hyphen are those up to it. -/
theorem takeWhile_digits {digits : Text} (h : ∀ c ∈ digits, c.isDigit) (rest : Text) :
    (digits ++ '-' :: rest).takeWhile Char.isDigit = digits ∧
      (digits ++ '-' :: rest).dropWhile Char.isDigit = '-' :: rest := by
  have hhyphen : ¬ '-'.isDigit := by decide
  rw [List.takeWhile_append_of_pos h, List.dropWhile_append_of_pos h,
    List.takeWhile_cons_of_neg hhyphen, List.dropWhile_cons_of_neg hhyphen, List.append_nil]
  exact ⟨rfl, rfl⟩

/-- What is behind the hyphen ends in the extension exactly if it is the middle before it. -/
theorem dropMark?_reverse_eq_some_iff {rest reversed : Text} :
    Text.dropMark? ('.' :: extension).reverse rest.reverse = some reversed ↔
      rest = reversed.reverse ++ '.' :: extension := by
  rw [Text.dropMark?_eq_some_iff, ← List.reverse_inj, List.reverse_reverse, List.reverse_append,
    List.reverse_reverse]

/-- The number that is read off a name is the one that it counts with. -/
theorem numberOf?_eq_some_iff : numberOf? extension name = some n ↔ Counts extension name n := by
  constructor
  · intro h
    have hname := List.takeWhile_append_dropWhile (p := Char.isDigit) (l := name)
    have hdigits : ∀ c ∈ name.takeWhile Char.isDigit, c.isDigit :=
      fun c hc => List.mem_takeWhile_imp hc
    unfold numberOf? at h
    simp only at h
    split at h
    · rename_i rest hdrop
      split at h
      · rename_i reversed hmark
        split at h
        · cases h
        · rename_i hform
          cases h
          simp only [not_or, Nat.not_lt, Nat.not_le] at hform
          obtain ⟨hlength, hfeed, hlimit⟩ := hform
          rw [hdrop, dropMark?_reverse_eq_some_iff.1 hmark] at hname
          exact ⟨reversed.reverse, ⟨hlimit, _, hname.symm, hlength, hdigits, rfl⟩,
            mt List.mem_reverse.1 hfeed⟩
      · cases h
    · cases h
  · rintro ⟨middle, ⟨hlimit, digits, rfl, hlength, hdigits, hvalue⟩, hfeed⟩
    obtain ⟨htake, hdrop⟩ := takeWhile_digits hdigits (middle ++ '.' :: extension)
    have hmark : Text.dropMark? ('.' :: extension).reverse (middle ++ '.' :: extension).reverse
        = some middle.reverse :=
      dropMark?_reverse_eq_some_iff.2 (by rw [List.reverse_reverse])
    have hform : ¬ (digits.length < 3 ∨ '\n' ∈ middle.reverse ∨ limit ≤ n) := by
      rintro (hshort | hmem | hlarge)
      · exact Nat.not_lt.2 hlength hshort
      · exact hfeed (List.mem_reverse.1 hmem)
      · exact Nat.not_le.2 hlimit hlarge
    unfold numberOf?
    simp only [htake, hdrop, hmark, hvalue, if_neg hform]

/-- A numbered name has its number. -/
theorem bears_numberedName (h : n < limit) (extension name : Text) :
    Bears extension (numberedName extension n name) n name :=
  ⟨h, _, rfl, by rw [Text.ofNatPadded, List.length_leftpad]; omega,
    fun _ hc => Text.isDigit_of_mem_ofNatPadded hc, Text.digitsValue_ofNatPadded 3 n⟩

/-- Numbered names with different numbers are different. -/
theorem numberedName_injective (h : numberedName extension m name = numberedName extension n name) :
    m = n := by
  have hdigits := List.append_cancel_right h
  rw [← Text.digitsValue_ofNatPadded 3 m, hdigits, Text.digitsValue_ofNatPadded]

/-! ## The next number -/

/-- A maximum is below a bound exactly if everything is. -/
theorem foldl_max_lt_iff {l : List Nat} {a n : Nat} :
    l.foldl max a < n ↔ a < n ∧ ∀ m ∈ l, m < n := by
  induction l generalizing a with
  | nil => simp
  | cons b l ih =>
    rw [List.foldl_cons, ih, Nat.max_lt, List.forall_mem_cons, and_assoc]

/-- The highest number is below a bound exactly if all numbers are that count. -/
theorem highest_lt_iff {names : List Text} :
    highest extension names < n ↔
      0 < n ∧ ∀ name ∈ names, ∀ m, Counts extension name m → m < n := by
  rw [highest, foldl_max_lt_iff]
  refine and_congr_right fun _ => ?_
  simp only [List.mem_filterMap, forall_exists_index, and_imp, numberOf?_eq_some_iff]
  exact ⟨fun h name hname m hm => h m name hname hm, fun h m name hname hm => h name hname m hm⟩

/-- The number is above all that count in a directory with these names, and the smallest such number
with which the file name is not taken there. -/
structure Next (extension name : Text) (names : List Text) (number : Nat) : Prop where
  pos : 0 < number
  lt_limit : number < limit
  above : ∀ entry ∈ names, ∀ m, Counts extension entry m → m < number
  smallest : ∀ k, 0 < k → (∀ entry ∈ names, ∀ m, Counts extension entry m → m < k) → k < number →
    numberedName extension k name ∈ names

/-- One above the highest number comes next. -/
theorem next_highest {names : List Text} (h : highest extension names + 1 < limit) (name : Text) :
    Next extension name names (highest extension names + 1) := by
  obtain ⟨hpos, habove⟩ := highest_lt_iff.1 (Nat.lt_succ_self (highest extension names))
  refine ⟨hpos, h, habove, fun k hk hcounts hlt => ?_⟩
  have := highest_lt_iff.2 ⟨hk, hcounts⟩
  omega

/-- If the file name is taken, the number after it comes next. -/
theorem Next.succ {names : List Text} (h : Next extension name names n)
    (htaken : numberedName extension n name ∈ names) (hlimit : n + 1 < limit) :
    Next extension name names (n + 1) := by
  refine ⟨Nat.succ_pos n, hlimit, fun entry hentry m hm =>
    Nat.lt_succ_of_lt (h.above entry hentry m hm), fun k hk hcounts hlt => ?_⟩
  rcases Nat.lt_succ_iff_lt_or_eq.1 hlt with hlt | rfl
  · exact h.smallest k hk hcounts hlt
  · exact htaken

/-- In a directory without any number, 1 comes next. -/
theorem Next.eq_one {names : List Text} (h : Next extension name names n)
    (hnone : ∀ entry ∈ names, ∀ m middle, ¬ Bears extension entry m middle) : n = 1 := by
  have hpos := h.pos
  by_contra hne
  have hone : 1 < n := by omega
  have htaken := h.smallest 1 Nat.one_pos
    (fun entry hentry m ⟨middle, hbears, _⟩ => absurd hbears (hnone entry hentry m middle)) hone
  exact hnone _ htaken 1 name (bears_numberedName (hone.trans h.lt_limit) extension name)

/-- The file name with the number above the highest one is free if it is in one line: it would
count. -/
theorem numberedName_highest_not_mem {names : List Text} (hname : '\n' ∉ name)
    (hlimit : highest extension names + 1 < limit) :
    numberedName extension (highest extension names + 1) name ∉ names := by
  intro hmem
  obtain ⟨-, habove⟩ := highest_lt_iff.1 (Nat.lt_succ_self (highest extension names))
  have hbears := bears_numberedName hlimit extension name
  exact Nat.lt_irrefl _ (habove _ hmem _ ⟨name, hbears, hname⟩)

/-- For a name in one line, one above the highest number comes next. -/
theorem Next.eq_highest {names : List Text} (h : Next extension name names n)
    (hname : '\n' ∉ name) : n = highest extension names + 1 := by
  have hlt : highest extension names < n := highest_lt_iff.2 ⟨h.pos, h.above⟩
  obtain ⟨-, habove⟩ := highest_lt_iff.1 (Nat.lt_succ_self (highest extension names))
  by_contra hne
  have hlate : highest extension names + 1 < n := by omega
  exact numberedName_highest_not_mem hname (hlate.trans h.lt_limit)
    (h.smallest _ (Nat.succ_pos _) habove hlate)

end Numbering

end Stencil
