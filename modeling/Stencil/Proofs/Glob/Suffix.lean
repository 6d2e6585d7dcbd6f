import Stencil.Glob.Match
import Stencil.Proofs.Text.Utf8

/-!
# Plain characters at the end of a pattern

Every part of a pattern takes its share from the front, and leaves the end of what there is
(`suffix_of_mem_partsRests`). So a text that is matched by a pattern with plain characters at its
end ends in these characters (`exists_append_of_isMatch`).
-/

namespace Stencil.Glob

/-! ## What is left -/

/-- Single bytes are taken from the front. -/
theorem suffix_of_mem_tailsWhile {p : UInt8 → Bool} {s r : List UInt8}
    (h : r ∈ tailsWhile p s) : r <:+ s := by
  induction s with
  | nil =>
    obtain rfl := List.mem_singleton.1 h
    exact List.suffix_rfl
  | cons b s ih =>
    rcases List.mem_cons.1 h with rfl | h
    · exact List.suffix_rfl
    · split at h
      · exact (ih h).trans (List.suffix_cons b s)
      · cases h

/-- Stretches up to a slash are taken from the front. -/
theorem suffix_of_mem_afterSlashes {s r : List UInt8} (h : r ∈ afterSlashes s) : r <:+ s := by
  induction s with
  | nil => cases h
  | cons b s ih =>
    rw [afterSlashes] at h
    split at h
    · rcases List.mem_cons.1 h with rfl | h
      · exact List.suffix_cons b r
      · exact (ih h).trans (List.suffix_cons b s)
    · exact (ih h).trans (List.suffix_cons b s)

mutual

/-- A part takes its share from the front. -/
theorem Part.suffix_of_mem_rests (within : Bool) : (p : Part) → (s r : List UInt8) →
    r ∈ p.rests within s → r <:+ s
  | .literal c, s, r, h => by
    simp only [Part.rests] at h
    split at h
    · obtain rfl := List.mem_singleton.1 h
      exact List.drop_suffix _ s
    · cases h
  | .one, [], r, h => by cases h
  | .one, b :: s, r, h => by
    simp only [Part.rests] at h
    split at h
    · cases h
    · obtain rfl := List.mem_singleton.1 h
      exact List.suffix_cons b r
  | .many, s, r, h => suffix_of_mem_tailsWhile h
  | .leading, s, r, h => by
    simp only [Part.rests, List.cons_append, List.mem_cons, List.mem_append] at h
    rcases h with rfl | h | h
    · exact List.suffix_rfl
    · split at h
      · obtain rfl := List.mem_singleton.1 h
        exact List.drop_suffix 1 s
      · cases h
    · exact suffix_of_mem_afterSlashes h
  | .trailing, s, r, h => by
    simp only [Part.rests] at h
    split at h
    · exact (suffix_of_mem_tailsWhile h).trans (List.drop_suffix 1 s)
    · cases h
  | .between, s, r, h => by
    simp only [Part.rests] at h
    split at h
    · rcases List.mem_cons.1 h with rfl | h
      · exact List.drop_suffix 1 s
      · exact (suffix_of_mem_afterSlashes h).trans (List.drop_suffix 1 s)
    · cases h
  | .oneOf negated ranges, [], r, h => by cases h
  | .oneOf negated ranges, b :: s, r, h => by
    simp only [Part.rests] at h
    split at h
    · obtain rfl := List.mem_singleton.1 h
      exact List.suffix_cons b r
    · cases h
  | .group branches, s, r, h => by
    simp only [Part.rests] at h
    split at h
    · obtain rfl := List.mem_singleton.1 h
      exact List.suffix_rfl
    · exact suffix_of_mem_branchRests within branches s r h

/-- A sequence of parts takes its share of one of the sequences from the front. -/
theorem suffix_of_mem_partsRests (within : Bool) : (ps : List Part) → (ss : List (List UInt8)) →
    (r : List UInt8) → r ∈ partsRests within ps ss → ∃ s ∈ ss, r <:+ s
  | [], ss, r, h => ⟨r, h, List.suffix_rfl⟩
  | p :: rest, ss, r, h => by
    rw [partsRests] at h
    obtain ⟨t, ht, hr⟩ := suffix_of_mem_partsRests within rest _ r h
    obtain ⟨s, hs, hts⟩ := List.mem_flatMap.1 (List.mem_eraseDups.1 ht)
    exact ⟨s, hs, hr.trans (Part.suffix_of_mem_rests within p s t hts)⟩

/-- A branch takes its share from the front. -/
theorem suffix_of_mem_branchRests (within : Bool) : (bs : List (List Part)) →
    (s r : List UInt8) → r ∈ branchRests within bs s → r <:+ s
  | [], s, r, h => by cases h
  | b :: rest, s, r, h => by
    rw [branchRests, List.mem_append] at h
    rcases h with h | h
    · split at h
      · cases h
      · obtain ⟨t, ht, hr⟩ := suffix_of_mem_partsRests within b [s] r h
        exact List.mem_singleton.1 ht ▸ hr
    · exact suffix_of_mem_branchRests within rest s r h

end

/-! ## Plain characters -/

/-- Parts take their shares one after the other. -/
theorem partsRests_append (within : Bool) (ps qs : List Part) (ss : List (List UInt8)) :
    partsRests within (ps ++ qs) ss = partsRests within qs (partsRests within ps ss) := by
  induction ps generalizing ss with
  | nil => rw [List.nil_append, partsRests]
  | cons p ps ih => rw [List.cons_append, partsRests, partsRests, ih]

/-- Plain characters take their bytes from the front of one of the sequences. -/
theorem mem_of_mem_partsRests_literals {within : Bool} {tail : Text} {ss : List (List UInt8)}
    {r : List UInt8} (h : r ∈ partsRests within (tail.map .literal) ss) :
    Utf8.encode tail ++ r ∈ ss := by
  induction tail generalizing ss with
  | nil => exact h
  | cons c tail ih =>
    rw [List.map_cons, partsRests] at h
    obtain ⟨s, hs, hrest⟩ := List.mem_flatMap.1 (List.mem_eraseDups.1 (ih h))
    simp only [Part.rests] at hrest
    split at hrest
    · obtain ⟨t, rfl⟩ := List.isPrefixOf_iff_prefix.1 ‹_›
      rw [List.drop_left, List.mem_singleton] at hrest
      rw [Utf8.encode_cons, List.append_assoc, hrest]
      exact hs
    · cases hrest

/-- A text that is matched by a pattern with plain characters at its end ends in them. -/
theorem exists_append_of_isMatch {within : Bool} {before : List Part} {tail s : Text}
    (htail : tail ≠ []) (h : isMatch within (before ++ tail.map .literal) s) :
    ∃ s', s = s' ++ tail := by
  have hany : (partsRests within (before ++ tail.map .literal) [Utf8.encode s]).any
      List.isEmpty = true := by
    unfold isMatch at h
    split at h
    · -- Two stars alone do not end in plain characters.
      rename_i heq
      have hlast := congrArg List.getLast? heq
      rw [List.getLast?_append, List.getLast?_map, List.getLast?_eq_some_getLast htail] at hlast
      cases hlast
    · exact h
  obtain ⟨r, hr, hempty⟩ := List.any_eq_true.1 hany
  obtain rfl := List.isEmpty_iff.1 hempty
  rw [partsRests_append] at hr
  have hmem := mem_of_mem_partsRests_literals hr
  rw [List.append_nil] at hmem
  obtain ⟨bytes, hbytes, front, hfront⟩ := suffix_of_mem_partsRests within before _ _ hmem
  rw [List.mem_singleton.1 hbytes] at hfront
  exact Utf8.exists_append_of_encode_eq hfront.symm

end Stencil.Glob
