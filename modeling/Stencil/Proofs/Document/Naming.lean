import Stencil.Document.Writer

/-!
# Names of documents

The path of a numbered document ends in its `numberedName`, behind a slash if there is anything
before (`text_target`). The name of a temporary file is one that is not taken (`freshName_not_mem`),
since there are more names to try than taken ones.
-/

namespace Stencil

/-! ## Numbers -/

/-- Digits denote the number that they were written for. -/
theorem Text.digitsValue_ofNat (n : Nat) : Text.digitsValue (Text.ofNat n) = n := by
  have hvalue : ∀ ds, Text.digitsValue ds = Nat.ofDigitChars 10 ds 0 := by
    intro ds
    rw [Text.digitsValue, Nat.ofDigitChars_eq_foldl]
    simp only [Nat.mul_comm]
  rw [hvalue, Text.ofNat, Nat.ofDigitChars_toDigits (by decide) (by decide)]

/-- A padded number consists of digits. -/
theorem Text.isDigit_of_mem_ofNatPadded {width n : Nat} {c : Char}
    (h : c ∈ Text.ofNatPadded width n) : c.isDigit := by
  rcases List.mem_append.1 h with h | h
  · rw [List.eq_of_mem_replicate h]
    decide
  · exact Nat.isDigit_of_mem_toDigits (by decide) (by decide) h

/-! ## Paths -/

/-- A path that goes on relatively ends in what it goes on with, behind a slash if there is anything
before. -/
theorem Path.text_join {p q : Path} (hq : ¬ q.isAbsolute) :
    (p.join q).text = q.text ∨ ∃ before, (p.join q).text = before ++ '/' :: q.text := by
  unfold join
  rw [if_neg hq]
  split
  · exact .inl rfl
  · obtain ⟨before, hbefore⟩ := List.getLast?_eq_some_iff.1 ‹p.text.getLast? = some '/'›
    exact .inr ⟨before, by simp [hbefore]⟩
  · exact .inr ⟨p.text, rfl⟩

/-- The name of a numbered file. -/
def numberedName (extension : Text) (number : Nat) (name : Text) : Text :=
  Text.ofNatPadded 3 number ++ '-' :: (name ++ '.' :: extension)

/-- A numbered name begins with a digit. -/
theorem exists_numberedName_eq_cons (extension : Text) (number : Nat) (name : Text) :
    ∃ c t, numberedName extension number name = c :: t ∧ c.isDigit := by
  have hne : Text.ofNatPadded 3 number ≠ [] := by
    intro hnil
    have hdigits := congrArg List.length hnil
    rw [Text.ofNatPadded, List.length_leftpad, List.length_nil] at hdigits
    omega
  obtain ⟨c, ds, hds⟩ := List.exists_cons_of_ne_nil hne
  exact ⟨c, _, by rw [numberedName, hds, List.cons_append],
    Text.isDigit_of_mem_ofNatPadded (hds ▸ List.mem_cons_self)⟩

/-- Whether a character other than a digit is in a numbered name does not depend on the number. -/
theorem mem_numberedName_iff {c : Char} (hc : ¬ c.isDigit) {extension name : Text} {number : Nat} :
    c ∈ numberedName extension number name ↔ c ∈ '-' :: (name ++ '.' :: extension) := by
  rw [numberedName, List.mem_append]
  exact or_iff_right fun hmem => hc (Text.isDigit_of_mem_ofNatPadded hmem)

/-- A numbered name has no slash if there is none in its parts. -/
theorem slash_not_mem_numberedName {extension name : Text} (hextension : '/' ∉ extension)
    (hname : '/' ∉ name) (number : Nat) : '/' ∉ numberedName extension number name := by
  rw [mem_numberedName_iff (by decide)]
  simp [hextension, hname]

/-- A numbered name does not begin with a slash. -/
theorem numberedName_not_absolute (extension : Text) (number : Nat) (name : Text) :
    ¬ Path.isAbsolute ⟨numberedName extension number name⟩ := by
  obtain ⟨c, t, heq, hc⟩ := exists_numberedName_eq_cons extension number name
  rw [Path.isAbsolute, heq, List.head?_cons]
  intro habs
  obtain rfl : c = '/' := by simpa using habs
  exact absurd hc (by decide)

namespace Document

/-- The path of a numbered document is that of its name in the output directory. -/
theorem target_eq {d : Document} (h : d.settings.numbered) (number : Nat) :
    d.target number
      = d.settings.dir.join ⟨numberedName d.settings.extension number d.name⟩ := by
  rw [target, OutputSettings.target, OutputSettings.fileName, if_pos h, numberedName]

/-- The path of a numbered document ends in its name, behind a slash if there is anything before. -/
theorem text_target {d : Document} (h : d.settings.numbered) (number : Nat) :
    (d.target number).text = numberedName d.settings.extension number d.name ∨
      ∃ before, (d.target number).text
        = before ++ '/' :: numberedName d.settings.extension number d.name := by
  rw [target_eq h]
  exact Path.text_join (numberedName_not_absolute _ number d.name)

/-! ## Temporary files -/

/-- Different numbers make different names of temporary files. -/
theorem tempName_injective {m n : Nat} (h : tempName m = tempName n) : m = n := by
  have hofNat : Text.ofNat m = Text.ofNat n := List.append_cancel_left h
  rw [← Text.digitsValue_ofNat m, hofNat, Text.digitsValue_ofNat]

/-- The name of a temporary file is not taken. -/
theorem freshName_not_mem (taken : List Text) : freshName taken ∉ taken := by
  unfold freshName
  cases hfind : ((List.range (taken.length + 1)).map tempName).find? (· ∉ taken) with
  | some name => simpa using List.find?_some hfind
  | none =>
    -- One name more has been tried than there are taken.
    have hnodup : ((List.range (taken.length + 1)).map tempName).Nodup :=
      List.Pairwise.map tempName (fun _ _ hne heq => hne (tempName_injective heq)) List.nodup_range
    have hsubset : (List.range (taken.length + 1)).map tempName ⊆ taken := by
      intro name hname
      simpa using List.find?_eq_none.1 hfind name hname
    have hlength := hnodup.length_le_of_subset hsubset
    rw [List.length_map, List.length_range] at hlength
    omega

end Document

end Stencil
