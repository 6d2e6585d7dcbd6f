import Mathlib.Data.List.Basic
import Stencil.Template.Words

/-!
# What word replacement does

`Replaced` says what it means that a key is replaced wherever it stands as a word: the leftmost
place is looked for, the value is put there as it is, and the search goes on behind it. What counts
as a word is a parameter, a relation between an edge of the key and its neighbour. There are two of
them. With `Isolated`, an edge that is a letter, a digit or an underscore must not have another one
beside it. With `Bounded`, just one of the edge and its neighbour must be a word character.

The rules replace by the second relation, whatever the text is (`apply_eq_iff`). The two notions of
a word differ on characters such as fractions, which count as digits but not as word characters. By
the first relation the rules replace where both notions agree beside the edges of the key, as they
do on all of ASCII (`Agrees.of_ascii`); that is `applyAll_replaces_words`.
-/

namespace Stencil.WordRule

/-! ## Words -/

/-- An edge that is a letter, a digit or an underscore has none of them beside it. -/
def Isolated (edge neighbour : Option Char) : Prop :=
  ∀ c ∈ edge, needsBoundary c → ∀ d ∈ neighbour, ¬ needsBoundary d

/-- Beside an edge that is a letter, a digit or an underscore there is a word boundary. -/
def Bounded (edge neighbour : Option Char) : Prop :=
  ∀ c ∈ edge, needsBoundary c → isWordChar c ≠ neighbour.any isWordChar

/-- The key stands in a text between two parts of it, and both of its edges allow their neighbours.
`before` is the character before the text. -/
structure IsWord (allows : Option Char → Option Char → Prop) (key : Text) (before : Option Char)
    (s pre rest : Text) : Prop where
  text_eq : s = pre ++ key ++ rest
  left : allows key.head? (pre.getLast?.or before)
  right : allows key.getLast? rest.head?

/-- The second text is the first with the key replaced by the value wherever it stands as a word,
from left to right. -/
inductive Replaced (allows : Option Char → Option Char → Prop) (key value : Text) :
    Option Char → Text → Text → Prop
  | nowhere {before : Option Char} {s : Text}
      (h : ∀ pre rest, ¬ IsWord allows key before s pre rest) :
      Replaced allows key value before s s
  | leftmost {before : Option Char} {s pre rest t : Text}
      (hword : IsWord allows key before s pre rest)
      (hfirst : ∀ pre' rest', IsWord allows key before s pre' rest' → pre.length ≤ pre'.length)
      (h : Replaced allows key value key.getLast? rest t) :
      Replaced allows key value before s (pre ++ value ++ t)

section

variable {allows allows' : Option Char → Option Char → Prop} {key value : Text}
  {before : Option Char}

/-- There is only one text that is another one with the key replaced. -/
theorem Replaced.unique {s t t' : Text} (h : Replaced allows key value before s t)
    (h' : Replaced allows key value before s t') : t = t' := by
  induction h generalizing t' with
  | nowhere hnowhere =>
    cases h' with
    | nowhere => rfl
    | leftmost hword => exact absurd hword (hnowhere _ _)
  | leftmost hword hfirst _ ih =>
    cases h' with
    | nowhere hnowhere => exact absurd hword (hnowhere _ _)
    | leftmost hword' hfirst' h' =>
      -- Both are the leftmost place, so that the text is cut in the same way.
      have hlength := Nat.le_antisymm (hfirst _ _ hword') (hfirst' _ _ hword)
      have htext := hword.text_eq.symm.trans hword'.text_eq
      rw [List.append_assoc, List.append_assoc] at htext
      obtain ⟨rfl, hrest⟩ := List.append_inj htext hlength
      obtain rfl := List.append_cancel_left hrest
      rw [ih h']

/-- Behind a character, the key stands as it does in the text from there on. -/
theorem isWord_cons {c : Char} {s pre rest : Text} :
    IsWord allows key before (c :: s) (c :: pre) rest ↔
      IsWord allows key (some c) s pre rest := by
  have hlast : (c :: pre).getLast?.or before = pre.getLast?.or (some c) := by
    cases pre with
    | nil => rfl
    | cons d pre => simp [List.getLast?_cons]
  constructor
  · rintro ⟨htext, hleft, hright⟩
    exact ⟨(List.cons.inj htext).2, hlast ▸ hleft, hright⟩
  · rintro ⟨rfl, hleft, hright⟩
    exact ⟨rfl, hlast ▸ hleft, hright⟩

/-- Behind a place where the key stands, it stands as it does in the text from there on. -/
theorem isWord_behind (hkey : key ≠ []) {s pre rest pre' rest' : Text}
    (htext : s = pre ++ key ++ rest) :
    IsWord allows key before s (pre ++ key ++ pre') rest' ↔
      IsWord allows key key.getLast? rest pre' rest' := by
  have hlast : (pre ++ key ++ pre').getLast?.or before = pre'.getLast?.or key.getLast? := by
    rw [List.getLast?_append, List.getLast?_append, List.getLast?_eq_some_getLast hkey,
      Option.some_or, Option.or_assoc, Option.some_or]
  subst htext
  constructor
  · rintro ⟨htext, hleft, hright⟩
    have hcut : pre ++ key ++ rest = pre ++ key ++ (pre' ++ key ++ rest') := by
      rw [htext]
      simp only [List.append_assoc]
    exact ⟨List.append_cancel_left hcut, hlast ▸ hleft, hright⟩
  · rintro ⟨rfl, hleft, hright⟩
    exact ⟨by simp, hlast ▸ hleft, hright⟩

/-- Relations that allow the key at the same places replace it in the same way. -/
theorem Replaced.congr (hkey : key ≠ []) {s t : Text} (h : Replaced allows key value before s t)
    (hallows : ∀ pre rest,
      IsWord allows key before s pre rest ↔ IsWord allows' key before s pre rest) :
    Replaced allows' key value before s t := by
  induction h with
  | nowhere h => exact .nowhere fun pre rest hword => h pre rest ((hallows _ _).2 hword)
  | leftmost hword hfirst _ ih =>
    refine .leftmost ((hallows _ _).1 hword)
      (fun pre' rest' h => hfirst pre' rest' ((hallows _ _).2 h)) (ih fun pre' rest' => ?_)
    rw [← isWord_behind hkey hword.text_eq, hallows, isWord_behind hkey hword.text_eq]

/-- A character that does not begin a word is kept. -/
theorem Replaced.cons {c : Char} {s t : Text}
    (hc : ∀ rest, ¬ IsWord allows key before (c :: s) [] rest)
    (h : Replaced allows key value (some c) s t) :
    Replaced allows key value before (c :: s) (c :: t) := by
  cases h with
  | nowhere h =>
    refine .nowhere fun pre rest hword => ?_
    cases pre with
    | nil => exact hc rest hword
    | cons d pre =>
      obtain rfl : c = d := (List.cons.inj hword.text_eq).1
      exact h pre rest (isWord_cons.1 hword)
  | @leftmost _ _ pre rest t hword hfirst h =>
    have hword : IsWord allows key before (c :: s) (c :: pre) rest := isWord_cons.2 hword
    refine .leftmost hword (fun pre' rest' hword' => ?_) h
    cases pre' with
    | nil => exact absurd hword' (hc rest')
    | cons d pre' =>
      obtain rfl : c = d := (List.cons.inj hword'.text_eq).1
      exact Nat.succ_le_succ (hfirst pre' rest' (isWord_cons.1 hword'))

/-- A key with which the text begins is replaced if it stands as a word there. -/
theorem Replaced.here {rest t : Text} (hleft : allows key.head? before)
    (hright : allows key.getLast? rest.head?) (h : Replaced allows key value key.getLast? rest t) :
    Replaced allows key value before (key ++ rest) (value ++ t) :=
  have hword : IsWord allows key before (key ++ rest) [] rest := ⟨rfl, hleft, hright⟩
  .leftmost hword (fun _ _ _ => Nat.zero_le _) h

end

/-! ## The rules -/

/-- A key fits between its neighbours if there are word boundaries beside its edges. -/
theorem fits_iff {key : Text} {before after : Option Char} :
    fits key before after ↔ Bounded key.head? before ∧ Bounded key.getLast? after := by
  have hedge : ∀ edge neighbour : Option Char,
      (!edge.any needsBoundary || edge.any isWordChar != neighbour.any isWordChar) = true ↔
        Bounded edge neighbour := by
    intro edge neighbour
    cases edge with
    | none => simp [Bounded]
    | some c => cases hc : needsBoundary c <;> simp [Bounded, hc]
  have hsymm : isBoundary before key.head? = (key.head?.any isWordChar != before.any isWordChar) :=
    bne_comm
  rw [fits, hsymm, isBoundary, Bool.and_eq_true, hedge, hedge]

section Equations

variable (r : WordRule) {before : Option Char}

/-- At the end of the text, what has been written is complete. -/
theorem applyFrom_nil (before : Option Char) (out : Text) :
    r.applyFrom before out [] = out.reverse := by
  rw [applyFrom.eq_def]
  split
  · rename_i rest hmark
    have hkey := (List.append_eq_nil_iff.1 (Text.dropMark?_eq_some_iff.1 hmark).symm).1
    exact absurd hkey r.key_ne_nil
  · rfl

/-- A key that fits makes way for the value. -/
theorem applyFrom_key {rest : Text} (out : Text) (hfits : fits r.key before rest.head?) :
    r.applyFrom before out (r.key ++ rest)
      = r.applyFrom r.key.getLast? (r.value.reverse ++ out) rest := by
  have hmark : Text.dropMark? r.key (r.key ++ rest) = some rest :=
    Text.dropMark?_eq_some_iff.2 rfl
  rw [applyFrom.eq_def]
  split
  · rename_i rest' hmark'
    obtain rfl : rest = rest' := Option.some.inj (hmark.symm.trans hmark')
    rw [if_pos hfits]
  · rename_i hnone
    cases hmark.symm.trans hnone

/-- A character with which no fitting key begins is copied. -/
theorem applyFrom_cons {c : Char} {s : Text} (out : Text)
    (h : ∀ rest, c :: s = r.key ++ rest → ¬ fits r.key before rest.head?) :
    r.applyFrom before out (c :: s) = r.applyFrom (some c) (c :: out) s := by
  rw [applyFrom.eq_def]
  split
  · rename_i rest hmark
    rw [if_neg (h rest (Text.dropMark?_eq_some_iff.1 hmark))]
  · rfl

end Equations

/-- A rule writes the text with the key replaced behind what it has written. -/
theorem replaced_applyFrom (r : WordRule) (before : Option Char) (out s : Text) :
    ∃ t, r.applyFrom before out s = out.reverse ++ t ∧
      Replaced Bounded r.key r.value before s t := by
  induction hn : s.length using Nat.strongRecOn generalizing before out s with
  | ind n ih =>
    by_cases hhere : ∃ rest, s = r.key ++ rest ∧ fits r.key before rest.head?
    · obtain ⟨rest, rfl, hfits⟩ := hhere
      have hlength : rest.length < n :=
        hn ▸ r.length_lt_of_match (Text.dropMark?_eq_some_iff.2 rfl)
      obtain ⟨t, hout, ht⟩ := ih _ hlength r.key.getLast? (r.value.reverse ++ out) rest rfl
      obtain ⟨hleft, hright⟩ := fits_iff.1 hfits
      exact ⟨r.value ++ t, by rw [applyFrom_key r out hfits, hout]; simp, .here hleft hright ht⟩
    · have hnot : ∀ rest, ¬ IsWord Bounded r.key before s [] rest :=
        fun rest hword => hhere ⟨rest, hword.text_eq, fits_iff.2 ⟨hword.left, hword.right⟩⟩
      cases s with
      | nil =>
        refine ⟨[], by rw [applyFrom_nil, List.append_nil], .nowhere fun pre rest hword => ?_⟩
        have hkey := (List.append_eq_nil_iff.1 (List.append_eq_nil_iff.1 hword.text_eq.symm).1).2
        exact r.key_ne_nil hkey
      | cons c s =>
        obtain ⟨t, hout, ht⟩ := ih _ (hn ▸ Nat.lt_succ_self _) (some c) (c :: out) s rfl
        have hcopied := applyFrom_cons r out fun rest h hfits => hhere ⟨rest, h, hfits⟩
        exact ⟨c :: t, by rw [hcopied, hout]; simp, .cons hnot ht⟩

/-- A rule replaces its key wherever it stands between word boundaries. -/
theorem apply_eq_iff {r : WordRule} {s t : Text} :
    r.apply s = t ↔ Replaced Bounded r.key r.value none s t := by
  obtain ⟨t', hout, ht'⟩ := replaced_applyFrom r none [] s
  rw [apply, hout, List.reverse_nil, List.nil_append]
  constructor
  · rintro rfl
    exact ht'
  · exact ht'.unique

/-! ## Where the two notions of a word agree -/

/-- An edge that is a letter, a digit or an underscore is a word character, and its neighbour is one
just if it is a letter, a digit or an underscore. -/
def Alike (edge neighbour : Option Char) : Prop :=
  ∀ c ∈ edge, needsBoundary c →
    isWordChar c ∧ ∀ d ∈ neighbour, isWordChar d = needsBoundary d

/-- Both notions of a word agree beside the edges of the key, wherever it is in the text. -/
def Agrees (key s : Text) : Prop :=
  ∀ pre rest, s = pre ++ key ++ rest →
    Alike key.head? pre.getLast? ∧ Alike key.getLast? rest.head?

/-- Where all characters of a text are classified alike, so are those at and beside the edges. -/
theorem Agrees.of_forall {key s : Text} (h : ∀ c ∈ s, isWordChar c = needsBoundary c) :
    Agrees key s := by
  rintro pre rest rfl
  simp only [List.mem_append] at h
  exact ⟨fun c hc hneeds => ⟨(h c (.inl (.inr (List.mem_of_head? hc)))).trans hneeds,
      fun d hd => h d (.inl (.inl (List.mem_of_getLast? hd)))⟩,
    fun c hc hneeds => ⟨(h c (.inl (.inr (List.mem_of_getLast? hc)))).trans hneeds,
      fun d hd => h d (.inr (List.mem_of_head? hd))⟩⟩

/-- Both notions of a word agree on ASCII. -/
theorem Agrees.of_ascii {key s : Text} (h : ∀ c ∈ s, c.toNat < 128) : Agrees key s := by
  have hall : ∀ n < 128, isWordChar (Char.ofNat n) = needsBoundary (Char.ofNat n) := by
    decide +kernel
  refine .of_forall fun c hc => ?_
  have hascii := hall c.toNat (h c hc)
  rwa [Char.ofNat_toNat] at hascii

/-- Beside an edge there is a word boundary just if it is isolated, where both notions agree. -/
theorem Alike.bounded_iff_isolated {edge neighbour : Option Char} (h : Alike edge neighbour) :
    Bounded edge neighbour ↔ Isolated edge neighbour := by
  refine forall₃_congr fun c hc hneeds => ?_
  obtain ⟨hword, hneighbour⟩ := h c hc hneeds
  rw [hword]
  cases neighbour with
  | none => simp
  | some d =>
    rw [Option.any_some, hneighbour d rfl]
    cases hd : needsBoundary d <;> simp [hd]

/-- A key stands at the same places by both relations, where both notions agree. -/
theorem isWord_bounded_iff {key s : Text} (h : Agrees key s) (pre rest : Text) :
    IsWord Bounded key none s pre rest ↔ IsWord Isolated key none s pre rest := by
  have hedges : s = pre ++ key ++ rest →
      (Bounded key.head? (pre.getLast?.or none) ↔ Isolated key.head? (pre.getLast?.or none)) ∧
        (Bounded key.getLast? rest.head? ↔ Isolated key.getLast? rest.head?) := by
    intro htext
    obtain ⟨hleft, hright⟩ := h pre rest htext
    rw [Option.or_none]
    exact ⟨hleft.bounded_iff_isolated, hright.bounded_iff_isolated⟩
  constructor
  · rintro ⟨htext, hleft, hright⟩
    exact ⟨htext, (hedges htext).1.1 hleft, (hedges htext).2.1 hright⟩
  · rintro ⟨htext, hleft, hright⟩
    exact ⟨htext, (hedges htext).1.2 hleft, (hedges htext).2.2 hright⟩

/-- Between word boundaries a key is replaced as a whole word, where both notions agree. -/
theorem Replaced.isolated {key value s t : Text} (hkey : key ≠ [])
    (h : Replaced Bounded key value none s t) (hagrees : Agrees key s) :
    Replaced Isolated key value none s t :=
  h.congr hkey (isWord_bounded_iff hagrees)

/-! ## Rules in turn -/

/-- What a rule makes of a text. -/
structure ReplacesWords (key value s t : Text) : Prop where
  /-- The key is replaced where there are word boundaries beside its edges. -/
  bounded : Replaced Bounded key value none s t
  /-- It is replaced as a whole word where both notions of a word agree beside its edges. -/
  isolated : Agrees key s → Replaced Isolated key value none s t

/-- A rule replaces words, and makes nothing else of a text. -/
theorem apply_eq_iff_replacesWords {r : WordRule} {s t : Text} :
    r.apply s = t ↔ ReplacesWords r.key r.value s t := by
  rw [apply_eq_iff]
  exact ⟨fun h => ⟨h, h.isolated r.key_ne_nil⟩, fun h => h.bounded⟩

/-- The second text comes from the first by one step for each pair, in order. -/
inductive InTurn (step : Text × Text → Text → Text → Prop) : List (Text × Text) → Text → Text → Prop
  | done {s : Text} : InTurn step [] s s
  | step {p : Text × Text} {pairs : List (Text × Text)} {s s' t : Text} (h : step p s s')
      (hrest : InTurn step pairs s' t) : InTurn step (p :: pairs) s t

/-- Rules replace whole words and nothing else. Without an empty key there is a rule for each pair,
and they are applied in turn. Each replaces its key by its value, as it is, at the leftmost places
that do not overlap where there are word boundaries beside the edges of the key. If both notions of
a word agree there, these are the places where no edge that is a letter, a digit or an underscore
has another one beside it. -/
theorem applyAll_replaces_words {pairs : List (Text × Text)} (hkeys : ∀ p ∈ pairs, p.1 ≠ []) :
    ∃ rules, ofPairs? pairs = some rules ∧ ∀ s t, applyAll rules s = t ↔
      InTurn (fun p => ReplacesWords p.1 p.2) pairs s t := by
  induction pairs with
  | nil =>
    refine ⟨[], rfl, fun s t => ⟨?_, fun hturn => ?_⟩⟩
    · rintro rfl
      exact .done
    · cases hturn
      rfl
  | cons p pairs ih =>
    obtain ⟨hkey, hpairs⟩ := List.forall_mem_cons.1 hkeys
    obtain ⟨rules, hrules, hall⟩ := ih hpairs
    refine ⟨⟨p.1, p.2, hkey⟩ :: rules, by rw [ofPairs?, dif_neg hkey, hrules]; rfl, fun s t => ?_⟩
    rw [applyAll, List.foldl_cons, ← applyAll, hall]
    constructor
    · exact .step ((apply_eq_iff_replacesWords (r := ⟨p.1, p.2, hkey⟩)).1 rfl)
    · intro hturn
      cases hturn with
      | step h hrest => rwa [apply_eq_iff_replacesWords.2 h]

/-- The key `APP` is replaced where it stands alone, by a value that looks like a reference to a
group, and the second rule is applied to what the first one leaves. -/
theorem applyAll_replaces_words_app :
    let text := "APP and APPS and _APP".toList
    let pairs := [("APP".toList, "$1".toList), ("and".toList, "or".toList)]
    (∀ p ∈ pairs, p.1 ≠ []) ∧
      InTurn (fun p => ReplacesWords p.1 p.2) pairs text "$1 or APPS or _APP".toList ∧
      Agrees "APP".toList text ∧
      ReplacesWords "APP".toList "$1".toList text "$1 and APPS and _APP".toList := by
  intro text pairs
  have hkeys : ∀ p ∈ pairs, p.1 ≠ [] := by decide
  have hkeys' : ∀ p ∈ [("APP".toList, "$1".toList)], p.1 ≠ [] := by decide
  obtain ⟨rules, hrules, hall⟩ := applyAll_replaces_words hkeys
  obtain ⟨rules', hrules', hall'⟩ := applyAll_replaces_words hkeys'
  obtain rfl := Option.some.inj hrules
  obtain rfl := Option.some.inj hrules'
  have htwo : applyAll [⟨"APP".toList, "$1".toList, by decide⟩,
      ⟨"and".toList, "or".toList, by decide⟩] text = "$1 or APPS or _APP".toList := by
    decide +kernel
  have hone : applyAll [⟨"APP".toList, "$1".toList, by decide⟩] text
      = "$1 and APPS and _APP".toList := by
    decide +kernel
  have hturn := (hall' _ _).1 hone
  cases hturn with
  | step h hrest =>
    cases hrest
    exact ⟨hkeys, (hall _ _).1 htwo, .of_ascii (by simp [text]), h⟩

/-- The key `½` is not replaced where it stands alone: it counts as a digit, so that a word boundary
is looked for beside it, but it is no word character, so that there is none. -/
theorem not_replaced_fraction : ¬ ∀ key value : Text, key ≠ [] →
    ∃ r, ofPairs? [(key, value)] = some [r] ∧
      ∀ s t, applyAll [r] s = t ↔ Replaced Isolated key value none s t := by
  intro h
  obtain ⟨r, hr, happly⟩ := h ['½'] "half".toList (by decide)
  obtain rfl := List.singleton_inj.1 (Option.some.inj hr)
  have hbehind : Replaced Isolated ['½'] "half".toList ['½'].getLast? [] [] := by
    refine .nowhere fun pre rest hword => ?_
    have hlength := congrArg List.length hword.text_eq
    simp at hlength
  have hreplaced : Replaced Isolated ['½'] "half".toList none ['½'] "half".toList :=
    .here (fun _ _ _ _ hd => nomatch hd) (fun _ _ _ _ hd => nomatch hd) hbehind
  have hsame : applyAll [⟨['½'], "half".toList, by decide⟩] ['½'] = ['½'] := by
    cbv
  have hhalf := hsame.symm.trans ((happly _ _).2 hreplaced)
  exact absurd hhalf (by decide)

end Stencil.WordRule
