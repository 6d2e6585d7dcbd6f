import Mathlib.Data.List.Infix
import Stencil.Text.Search

/-!
# What replacing does

`Replaced` says what it means that the occurrences of a pattern are replaced from left to right and
without overlap, apart from the search that does it. `replace_eq_iff` says that `replace` does this
and nothing else, for every pattern that is not empty.

One pass does not always get rid of a pattern: the value may go together with its neighbours to make
it up again. Where value and pattern differ in a way that excludes this, the pattern does not occur
in what comes out (`Replaced.not_infix`).
-/

namespace Stencil.Text

/-- The second text is the first with every occurrence of the pattern replaced by the value: where
the pattern begins, it is replaced and the search goes on behind it, and elsewhere a character is
kept. -/
inductive Replaced (pattern value : Text) : Text → Text → Prop
  | done : Replaced pattern value [] []
  | found {s t : Text} (h : Replaced pattern value s t) :
      Replaced pattern value (pattern ++ s) (value ++ t)
  | kept {c : Char} {s t : Text} (hc : ¬ pattern <+: c :: s) (h : Replaced pattern value s t) :
      Replaced pattern value (c :: s) (c :: t)

variable {pattern value : Text}

/-- There is only one text that is another one with the pattern replaced. -/
theorem Replaced.unique (hpattern : pattern ≠ []) {s t t' : Text}
    (h : Replaced pattern value s t) (h' : Replaced pattern value s t') : t = t' := by
  induction h generalizing t' with
  | done =>
    generalize hs : ([] : Text) = s at h'
    cases h' with
    | done => rfl
    | found => exact absurd (List.append_eq_nil_iff.1 hs.symm).1 hpattern
    | kept => cases hs
  | @found s t h ih =>
    generalize hs : pattern ++ s = s' at h'
    cases h' with
    | done => exact absurd (List.append_eq_nil_iff.1 hs).1 hpattern
    | found h' =>
      obtain rfl := List.append_cancel_left hs
      rw [ih h']
    | kept hc => exact absurd ⟨s, hs⟩ hc
  | @kept c s t hc h ih =>
    generalize hs : c :: s = s' at h'
    cases h' with
    | done => cases hs
    | @found s' t' => exact absurd ⟨s', hs.symm⟩ hc
    | kept _ h' =>
      cases hs
      rw [ih h']

/-- Every text is some text with the pattern replaced. -/
theorem exists_replaced (hpattern : pattern ≠ []) (value s : Text) :
    ∃ t, Replaced pattern value s t := by
  induction hn : s.length using Nat.strongRecOn generalizing s with
  | ind n ih =>
    by_cases hbegins : pattern <+: s
    · obtain ⟨rest, rfl⟩ := hbegins
      have hlength : rest.length < n := by
        rw [← hn, List.length_append]
        exact Nat.lt_add_of_pos_left (List.length_pos_iff.2 hpattern)
      obtain ⟨t, ht⟩ := ih _ hlength rest rfl
      exact ⟨_, .found ht⟩
    · cases s with
      | nil => exact ⟨_, .done⟩
      | cons c s =>
        obtain ⟨t, ht⟩ := ih _ (hn ▸ Nat.lt_succ_self _) s rfl
        exact ⟨_, .kept hbegins ht⟩

/-- The search writes the replaced text behind what it has written. -/
theorem Replaced.replaceFrom_eq (hpattern : pattern ≠ []) {s t : Text}
    (h : Replaced pattern value s t) (out : Text) :
    replaceFrom pattern value out s = out.reverse ++ t := by
  obtain ⟨p, ps, rfl⟩ := List.exists_cons_of_ne_nil hpattern
  induction h generalizing out with
  | done => simp [replaceFrom, dropMark?]
  | @found s t h ih =>
    have hmark : dropMark? (p :: ps) (p :: ps ++ s) = some s := dropMark?_eq_some_iff.2 rfl
    rw [replaceFrom.eq_def, hmark]
    have hlength : s.length < (p :: ps ++ s).length := by
      rw [List.length_append, List.length_cons]
      omega
    simp only
    rw [if_pos hlength, ih]
    simp
  | @kept c s t hc h ih =>
    have hmark : dropMark? (p :: ps) (c :: s) = none := dropMark?_eq_none_iff.2 hc
    rw [replaceFrom, hmark]
    simp only
    rw [ih, List.reverse_cons, List.append_assoc]
    rfl

/-- Replacing yields the text with the pattern replaced, and no other one. -/
theorem replace_eq_iff (hpattern : pattern ≠ []) {s t : Text} :
    replace pattern value s = t ↔ Replaced pattern value s t := by
  obtain ⟨t', ht'⟩ := exists_replaced hpattern value s
  have hreplace : replace pattern value s = t' := ht'.replaceFrom_eq hpattern []
  constructor
  · rintro rfl
    exact hreplace ▸ ht'
  · intro h
    rw [hreplace]
    exact ht'.unique hpattern h

/-! ## What does not come back -/

/-- No text begins with both. -/
def Clash (x y : Text) : Prop :=
  ¬ x <+: y ∧ ¬ y <+: x

instance (x y : Text) : Decidable (Clash x y) :=
  inferInstanceAs (Decidable (_ ∧ _))

/-- What begins with one of two texts that clash does not begin with the other. -/
theorem Clash.not_prefix_append {x y : Text} (h : Clash x y) (t : Text) : ¬ x <+: y ++ t :=
  fun hx => (List.prefix_or_prefix_of_prefix hx (List.prefix_append y t)).elim h.1 h.2

/-- The value breaks up the pattern: neither can it be read as the end of one, nor does a pattern
begin in it. -/
structure Breaks (value pattern : Text) : Prop where
  ends : ∀ x ∈ pattern.tails, x ≠ [] → x ≠ pattern → Clash x value
  begins : ∀ x ∈ value.tails, x ≠ [] → Clash pattern x

/-- What comes out begins with the end of a pattern only where this has been kept. -/
theorem Replaced.begins_of_begins (hbreaks : Breaks value pattern) {s t x : Text}
    (h : Replaced pattern value s t) (hx : x <:+ pattern) (hne : x ≠ pattern) (hxt : x <+: t) :
    x <+: s := by
  induction h generalizing x with
  | done => exact hxt
  | found =>
    by_cases hnil : x = []
    · exact hnil ▸ List.nil_prefix
    · have hclash := hbreaks.ends x ((List.mem_tails x pattern).2 hx) hnil hne
      exact absurd hxt (hclash.not_prefix_append _)
  | @kept c s t hc h ih =>
    cases x with
    | nil => exact List.nil_prefix
    | cons d x =>
      obtain ⟨rfl, hrest⟩ := List.cons_prefix_cons.1 hxt
      have hshort : x ≠ pattern := by
        rintro rfl
        exact Nat.not_succ_le_self _ hx.length_le
      exact List.cons_prefix_cons.2 ⟨rfl, ih ((List.suffix_cons d x).trans hx) hshort hrest⟩

/-- A pattern does not begin in a value, so that it occurs behind it or nowhere. -/
theorem not_infix_append {v t : Text} (hbegins : ∀ x ∈ v.tails, x ≠ [] → Clash pattern x)
    (h : ¬ pattern <:+: t) : ¬ pattern <:+: v ++ t := by
  induction v with
  | nil => exact h
  | cons c v ih =>
    rw [List.tails_cons, List.forall_mem_cons] at hbegins
    obtain ⟨hclash, hbegins⟩ := hbegins
    have hclash := hclash (List.cons_ne_nil c v)
    have hrest := ih hbegins
    rw [List.cons_append, List.infix_cons_iff, not_or]
    exact ⟨hclash.not_prefix_append t, hrest⟩

/-- A pattern that the value breaks up does not occur in what comes out. -/
theorem Replaced.not_infix (hpattern : pattern ≠ []) (hbreaks : Breaks value pattern) {s t : Text}
    (h : Replaced pattern value s t) : ¬ pattern <:+: t := by
  induction h with
  | done => exact fun hinfix => hpattern (List.infix_nil.1 hinfix)
  | found h ih => exact not_infix_append hbreaks.begins ih
  | @kept c s t hc h ih =>
    rw [List.infix_cons_iff, not_or]
    refine ⟨fun hprefix => hc ?_, ih⟩
    -- What follows the first character of the pattern has been kept as well.
    obtain ⟨d, rest, rfl⟩ := List.exists_cons_of_ne_nil hpattern
    obtain ⟨rfl, hrest⟩ := List.cons_prefix_cons.1 hprefix
    exact List.cons_prefix_cons.2 ⟨rfl, h.begins_of_begins hbreaks (List.suffix_cons d rest)
      (List.cons_ne_self d rest).symm hrest⟩

end Stencil.Text
