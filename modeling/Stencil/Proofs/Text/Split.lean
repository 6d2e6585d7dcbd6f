import Mathlib.Data.List.TakeWhile
import Stencil.Text.Basic

/-!
# Pieces between separators

What `splitOn` makes of a text is made of its parts: a separator ends the pieces of what is before
it (`splitOn_append`), and a text without separators is its own only piece
(`splitOn_of_not_mem`). The last piece is what is read backwards up to a separator
(`getLast?_splitOn`). Pieces that are joined are the pieces again (`splitOn_join`).
-/

namespace Stencil.Text

variable {sep : Char}

/-- Pieces that are done stand before the others. -/
theorem splitOn_go_eq (done : List Text) (piece s : Text) :
    splitOn.go sep done piece s = done.reverse ++ splitOn.go sep [] piece s := by
  induction s generalizing done piece with
  | nil => simp [splitOn.go]
  | cons c s ih =>
    rw [splitOn.go, splitOn.go]
    split
    · rw [ih, ih [piece.reverse]]
      simp
    · exact ih done (c :: piece)

/-- A separator parts the pieces before it from those behind it. -/
theorem splitOn_append (s t : Text) :
    splitOn sep (s ++ sep :: t) = splitOn sep s ++ splitOn sep t := by
  have hgo : ∀ piece, splitOn.go sep [] piece (s ++ sep :: t)
      = splitOn.go sep [] piece s ++ splitOn.go sep [] [] t := by
    induction s with
    | nil =>
      intro piece
      have hsep : splitOn.go sep [] piece (sep :: t) = splitOn.go sep [piece.reverse] [] t := by
        rw [splitOn.go, if_pos rfl]
      rw [List.nil_append, hsep, splitOn_go_eq]
      rfl
    | cons c s ih =>
      intro piece
      rw [List.cons_append, splitOn.go, splitOn.go]
      split
      · rw [splitOn_go_eq, ih, splitOn_go_eq [piece.reverse], List.append_assoc]
      · exact ih (c :: piece)
  exact hgo []

/-- A text without separators is its only piece. -/
theorem splitOn_of_not_mem {s : Text} (h : sep ∉ s) : splitOn sep s = [s] := by
  have hgo : ∀ piece, splitOn.go sep [] piece s = [piece.reverse ++ s] := by
    induction s with
    | nil => simp [splitOn.go]
    | cons c s ih =>
      intro piece
      have hc : ¬ c = sep := fun hc => h (hc ▸ List.mem_cons_self)
      rw [splitOn.go, if_neg hc, ih fun hs => h (List.mem_cons_of_mem c hs)]
      simp
  exact hgo []

/-- Every text ends in a stretch without separators, which is all of it or follows a separator. -/
theorem eq_or_exists_append (sep : Char) (s : Text) :
    s = (s.reverse.takeWhile (· ≠ sep)).reverse ∨
      ∃ before, s = before ++ sep :: (s.reverse.takeWhile (· ≠ sep)).reverse := by
  have hs : s = (s.reverse.dropWhile (· ≠ sep)).reverse
      ++ (s.reverse.takeWhile (· ≠ sep)).reverse := by
    rw [← List.reverse_append, List.takeWhile_append_dropWhile, List.reverse_reverse]
  cases hdrop : s.reverse.dropWhile (· ≠ sep) with
  | nil =>
    rw [hdrop] at hs
    exact .inl hs
  | cons c rest =>
    have hc : c = sep := by
      have hhead := List.head?_dropWhile_not (· ≠ sep) s.reverse
      rw [hdrop] at hhead
      simpa using hhead
    rw [hdrop, hc, List.reverse_cons, List.append_assoc] at hs
    exact .inr ⟨rest.reverse, hs⟩

/-- The last piece is what is read backwards up to a separator. -/
theorem getLast?_splitOn (s : Text) :
    (splitOn sep s).getLast? = some (s.reverse.takeWhile (· ≠ sep)).reverse := by
  have hlast : sep ∉ (s.reverse.takeWhile (· ≠ sep)).reverse := by
    intro hmem
    simpa using List.mem_takeWhile_imp (List.mem_reverse.1 hmem)
  generalize hpiece : (s.reverse.takeWhile (· ≠ sep)).reverse = piece at hlast
  rcases eq_or_exists_append sep s with hs | ⟨before, hs⟩
  · rw [hs, hpiece, splitOn_of_not_mem hlast]
    rfl
  · rw [hs, hpiece, splitOn_append, splitOn_of_not_mem hlast, List.getLast?_concat]

/-- What ends in a text without separators has a last piece that ends in it. -/
theorem exists_getLast?_splitOn_append {tail : Text} (htail : sep ∉ tail) (s : Text) :
    ∃ piece, (splitOn sep (s ++ tail)).getLast? = some (piece ++ tail) := by
  have hlast : ∀ {piece : Text}, sep ∉ piece → sep ∉ piece ++ tail :=
    fun hpiece hmem => (List.mem_append.1 hmem).elim hpiece htail
  by_cases hs : sep ∈ s
  · obtain ⟨piece, before, hreverse, hpiece⟩ := List.eq_append_cons_of_mem (List.mem_reverse.2 hs)
    have hs' : s = before.reverse ++ sep :: piece.reverse := by
      rw [← List.reverse_reverse s, hreverse]
      simp
    refine ⟨piece.reverse, ?_⟩
    rw [hs', List.append_assoc, List.cons_append, splitOn_append,
      splitOn_of_not_mem (hlast (mt List.mem_reverse.1 hpiece)), List.getLast?_concat]
  · exact ⟨s, by rw [splitOn_of_not_mem (hlast hs)]; rfl⟩

/-- There are no separators in a piece. -/
theorem not_mem_of_mem_splitOn {s piece : Text} (h : piece ∈ splitOn sep s) : sep ∉ piece := by
  induction hn : s.length using Nat.strongRecOn generalizing s with
  | ind n ih =>
    by_cases hsep : sep ∈ s
    · obtain ⟨before, after, rfl, hbefore⟩ := List.eq_append_cons_of_mem hsep
      rw [splitOn_append, splitOn_of_not_mem hbefore, List.singleton_append, List.mem_cons] at h
      rcases h with rfl | h
      · exact hbefore
      · refine ih _ ?_ h rfl
        rw [← hn, List.length_append, List.length_cons]
        omega
    · rw [splitOn_of_not_mem hsep, List.mem_singleton] at h
      exact h ▸ hsep

/-- The first of several pieces is joined to the others by a separator. -/
theorem join_cons_cons (mark piece next : Text) (rest : List Text) :
    join mark (piece :: next :: rest) = piece ++ mark ++ join mark (next :: rest) := by
  simp [join]

/-- Joined pieces are split into the same pieces. -/
theorem splitOn_join {pieces : List Text} (hne : pieces ≠ []) (h : ∀ piece ∈ pieces, sep ∉ piece) :
    splitOn sep (join [sep] pieces) = pieces := by
  induction pieces with
  | nil => exact absurd rfl hne
  | cons piece rest ih =>
    have hpiece := splitOn_of_not_mem (h piece List.mem_cons_self)
    cases rest with
    | nil =>
      have hjoin : join [sep] [piece] = piece := by simp [join]
      rw [hjoin, hpiece]
    | cons next rest =>
      rw [join_cons_cons, List.append_assoc, List.singleton_append, splitOn_append, hpiece,
        ih (List.cons_ne_nil _ _) fun p hp => h p (List.mem_cons_of_mem _ hp)]
      rfl

/-- A text is parted at a separator exactly if this is the first one. -/
theorem splitFirst?_eq_some_iff {s before after : Text} :
    splitFirst? sep s = some (before, after) ↔ s = before ++ sep :: after ∧ sep ∉ before := by
  constructor
  · intro h
    have hs := List.takeWhile_append_dropWhile (p := (· ≠ sep)) (l := s)
    have hhead := List.head?_dropWhile_not (· ≠ sep) s
    unfold splitFirst? at h
    split at h
    · cases h
    · rename_i c rest hdrop
      cases h
      rw [hdrop] at hs hhead
      have hc : c = sep := by simpa using hhead
      rw [hc] at hs
      refine ⟨hs.symm, fun hmem => ?_⟩
      simpa using List.mem_takeWhile_imp hmem
  · rintro ⟨rfl, hbefore⟩
    have hall : ∀ c ∈ before, (decide (c ≠ sep)) = true := by
      intro c hc
      exact decide_eq_true fun heq => hbefore (heq ▸ hc)
    rw [splitFirst?, List.dropWhile_append_of_pos hall, List.takeWhile_append_of_pos hall,
      List.dropWhile_cons_of_neg (by simp), List.takeWhile_cons_of_neg (by simp),
      List.append_nil]

end Stencil.Text
