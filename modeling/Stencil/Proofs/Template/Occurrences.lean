import Mathlib.Algebra.GroupWithZero.Nat
import Mathlib.Data.List.Basic
import Mathlib.Data.List.Induction
import Stencil.Proofs.Template.Placeholders

/-!
# Placeholders and their occurrences

How the two lists that a template records are related to its tokens. The placeholders are those of
the distinct tokens, in the order in which they first appear (`raws_parse` and
`firstAppearances_eraseDups`); there is an occurrence for each span of the scan
(`length_occurrences`), and each belongs to one placeholder, so that the numbers of occurrences of
all placeholders add up to the number of spans (`sum_countP_index`).
-/

namespace Stencil.Template

/-! ## First appearances -/

/-- A list has the elements of another one, in the order in which they first appear there. -/
structure FirstAppearances (all firsts : List Text) : Prop where
  mem_iff : ∀ raw, raw ∈ firsts ↔ raw ∈ all
  ordered : firsts.Pairwise fun a b => all.idxOf a < all.idxOf b

/-- No element appears first at two places. -/
theorem FirstAppearances.nodup {all firsts : List Text} (h : FirstAppearances all firsts) :
    firsts.Nodup :=
  h.ordered.imp fun hlt heq => absurd hlt (by rw [heq]; exact Nat.lt_irrefl _)

/-- One more element comes behind all others, unless it has been there. -/
theorem FirstAppearances.concat {all firsts : List Text} (h : FirstAppearances all firsts)
    (a : Text) :
    FirstAppearances (all ++ [a]) (if a ∈ firsts then firsts else firsts ++ [a]) := by
  -- What has been there keeps its place.
  have hold : firsts.Pairwise fun x y => (all ++ [a]).idxOf x < (all ++ [a]).idxOf y := by
    refine h.ordered.imp_of_mem fun {x y} hx hy hlt => ?_
    have hx := (h.mem_iff x).1 hx
    have hy := (h.mem_iff y).1 hy
    rwa [List.idxOf_append_of_mem hx, List.idxOf_append_of_mem hy]
  split
  · rename_i ha
    refine ⟨fun x => ?_, hold⟩
    rw [List.mem_append, List.mem_singleton, h.mem_iff]
    exact ⟨.inl, fun hx => hx.elim id fun hx => hx ▸ (h.mem_iff a).1 ha⟩
  · rename_i ha
    have hnew : a ∉ all := mt (h.mem_iff a).2 ha
    refine ⟨fun x => by rw [List.mem_append, List.mem_append, h.mem_iff], ?_⟩
    rw [List.pairwise_append]
    refine ⟨hold, List.pairwise_singleton _ _, fun x hx y hy => ?_⟩
    have hx := (h.mem_iff x).1 hx
    rw [List.mem_singleton.1 hy, List.idxOf_append_of_mem hx, List.idxOf_append_of_notMem hnew]
    exact Nat.lt_add_right _ (List.idxOf_lt_length_of_mem hx)

/-- The first appearances among first appearances are those of the whole list. -/
theorem FirstAppearances.trans {all firsts fewer : List Text} (h : FirstAppearances all firsts)
    (h' : FirstAppearances firsts fewer) : FirstAppearances all fewer := by
  refine ⟨fun x => (h'.mem_iff x).trans (h.mem_iff x), ?_⟩
  refine h'.ordered.imp_of_mem fun {x y} hmem hmem' hlt => ?_
  have hx := List.idxOf_lt_length_of_mem ((h'.mem_iff x).1 hmem)
  have hy := List.idxOf_lt_length_of_mem ((h'.mem_iff y).1 hmem')
  have hordered := List.pairwise_iff_getElem.1 h.ordered _ _ hx hy hlt
  rwa [List.getElem_idxOf hx, List.getElem_idxOf hy] at hordered

/-- What appears first still does so if it is kept. -/
theorem idxOf_filter_lt {p : Text → Bool} {x y : Text} (hx : p x) {all : List Text}
    (h : all.idxOf x < all.idxOf y) : (all.filter p).idxOf x < (all.filter p).idxOf y := by
  induction all with
  | nil => exact absurd h (Nat.lt_irrefl _)
  | cons a all ih =>
    by_cases hya : a = y
    · rw [List.idxOf_cons, List.idxOf_cons, hya, beq_self_eq_true, cond_true] at h
      exact absurd h (Nat.not_lt_zero _)
    · by_cases hxa : a = x
      · subst hxa
        rw [List.filter_cons_of_pos hx, List.idxOf_cons_self, List.idxOf_cons_ne _ hya]
        exact Nat.succ_pos _
      · rw [List.idxOf_cons_ne _ hxa, List.idxOf_cons_ne _ hya] at h
        have hlt := ih (Nat.lt_of_succ_lt_succ h)
        by_cases ha : p a
        · rw [List.filter_cons_of_pos ha, List.idxOf_cons_ne _ hxa, List.idxOf_cons_ne _ hya]
          exact Nat.succ_lt_succ hlt
        · rwa [List.filter_cons_of_neg ha]

/-- What is kept of the first appearances are the first appearances of what is kept. -/
theorem FirstAppearances.filter {all firsts : List Text} (h : FirstAppearances all firsts)
    (p : Text → Bool) : FirstAppearances (all.filter p) (firsts.filter p) := by
  refine ⟨fun x => by rw [List.mem_filter, List.mem_filter, h.mem_iff], ?_⟩
  refine (h.ordered.filter p).imp_of_mem fun {x y} hx _ hlt => ?_
  exact idxOf_filter_lt (List.mem_filter.1 hx).2 hlt

/-- What is left without the later copies are the first appearances. -/
theorem firstAppearances_eraseDups (l : List Text) : FirstAppearances l l.eraseDups := by
  induction l using List.reverseRecOn with
  | nil => exact ⟨fun _ => List.mem_eraseDups, .nil⟩
  | append_singleton l a ih =>
    rw [List.eraseDups_append]
    have hconcat := ih.concat a
    by_cases ha : a ∈ l
    · have hnone : [a].removeAll l = [] := by simp [List.removeAll, ha]
      rw [hnone, List.eraseDups_nil, List.append_nil]
      rwa [if_pos (List.mem_eraseDups.2 ha)] at hconcat
    · have hone : [a].removeAll l = [a] := by simp [List.removeAll, ha]
      have hsingle : [a].eraseDups = [a] := by simp [List.eraseDups_cons]
      rw [hone, hsingle]
      rwa [if_neg (mt List.mem_eraseDups.1 ha)] at hconcat

/-- The tokens of the placeholders are the distinct tokens of the text. -/
theorem raws_parse (text : Text) :
    (parse text).placeholders.map Placeholder.raw = (tokens (Token.pieces text)).eraseDups := by
  simp only [parse, List.map_map]
  exact List.map_id _

/-- The placeholders have the tokens of the text in the order in which they first appear. -/
theorem firstAppearances_parse (text : Text) : FirstAppearances (tokens (Token.pieces text))
    ((parse text).placeholders.map Placeholder.raw) := by
  rw [raws_parse]
  exact firstAppearances_eraseDups _

/-! ## Occurrences -/

/-- There is a span for each token. -/
theorem length_spansFrom (done : List Token.Span) (pos : Nat) (pieces : List Token.Piece) :
    (Token.spansFrom done pos pieces).length = done.length + (tokens pieces).length := by
  fun_induction Token.spansFrom done pos pieces with
  | case1 done pos => simp [tokens]
  | case2 done pos s rest ih => exact ih
  | case3 done pos raw rest ih =>
    have htokens : tokens (.token raw :: rest) = raw :: tokens rest := rfl
    rw [ih, htokens, List.length_cons, List.length_cons]
    omega

/-- There is an occurrence for each span. -/
theorem length_occurrences (text : Text) :
    (parse text).occurrences.length = (Token.scan text).length := by
  have hlength := length_spansFrom [] 0 (Token.pieces text)
  rw [List.length_nil, Nat.zero_add] at hlength
  simp only [parse, List.length_zipWith]
  rw [Token.scan, hlength, Nat.min_self]

/-- Every occurrence is that of a placeholder. -/
theorem index_lt {text : Text} {o : Occurrence} (h : o ∈ (parse text).occurrences) :
    o.index < (parse text).placeholders.length := by
  obtain ⟨i, hi⟩ := List.mem_iff_getElem?.1 h
  simp only [parse, List.getElem?_zipWith_eq_some] at hi
  obtain ⟨span, raw, -, hraw, rfl⟩ := hi
  simp only [parse, List.length_map]
  exact List.idxOf_lt_length_of_mem (List.mem_eraseDups.2 (List.mem_of_getElem? hraw))

/-- The occurrences with one more index are those with the smaller ones and those with this one. -/
theorem countP_index_succ (os : List Occurrence) (n : Nat) :
    os.countP (·.index < n + 1) = os.countP (·.index < n) + os.countP (·.index = n) := by
  induction os with
  | nil => rfl
  | cons o os ih =>
    simp only [List.countP_cons, ih, decide_eq_true_eq]
    split_ifs <;> omega

/-- The occurrences with small indices are counted index by index. -/
theorem sum_countP_index (os : List Occurrence) (n : Nat) :
    ((List.range n).map fun i => os.countP (·.index = i)).sum = os.countP (·.index < n) := by
  induction n with
  | zero => simp
  | succ n ih =>
    rw [List.range_succ, List.map_append, List.sum_append, ih, countP_index_succ]
    simp

/-- The occurrences of all placeholders, counted one by one, are all occurrences. -/
theorem sum_occurrences (text : Text) :
    ((List.range (parse text).placeholders.length).map fun i =>
      (parse text).occurrences.countP (·.index = i)).sum = (parse text).occurrences.length := by
  rw [sum_countP_index, List.countP_eq_length]
  exact fun o ho => decide_eq_true (index_lt ho)

end Stencil.Template
