import Stencil.Data.Bindings
import Stencil.Proofs.Template.Occurrences

/-!
# What setting keys makes of bindings

Setting one key changes its value in its place, or puts it behind all others (`keys_set`,
`mem_set_iff`). From this step follows what setting several keys one after the other does:
`overridden_setAll` says which keys there are then, in which order, and that each has the value that
it was given last. Setting the keys of bindings that have themselves been made up of pairs is the
same as setting the pairs (`Overridden.of_ofPairs`).
-/

namespace Stencil.Bindings

open Template (FirstAppearances)

/-- The keys in order. -/
def keys (pairs : List (Text × Text)) : List Text :=
  pairs.map Prod.fst

@[simp] theorem keys_nil : keys [] = [] := rfl

@[simp] theorem keys_cons (key value : Text) (rest : List (Text × Text)) :
    keys ((key, value) :: rest) = key :: keys rest := rfl

@[simp] theorem keys_append (pairs pairs' : List (Text × Text)) :
    keys (pairs ++ pairs') = keys pairs ++ keys pairs' := List.map_append

variable {b : Bindings} {pairs : List (Text × Text)} {key value k v : Text}

/-! ## One key -/

/-- A key that is there keeps its place, and another one comes behind all others. -/
theorem keys_set (key value : Text) (b : Bindings) :
    keys (b.set key value) = if key ∈ keys b then keys b else keys b ++ [key] := by
  induction b with
  | nil => rfl
  | cons entry rest ih =>
    obtain ⟨other, v⟩ := entry
    rw [set, keys_cons]
    by_cases hkey : other = key
    · rw [if_pos hkey, keys_cons, if_pos (hkey ▸ List.mem_cons_self), hkey]
    · have hmem : key ∈ other :: keys rest ↔ key ∈ keys rest := by
        rw [List.mem_cons, or_iff_right (Ne.symm hkey)]
      rw [if_neg hkey, keys_cons, ih]
      simp only [hmem]
      split <;> rfl

/-- The key has the new value, and every other key has the value that it had. -/
theorem mem_set_iff (hb : (keys b).Nodup) :
    (k, v) ∈ b.set key value ↔ (k = key ∧ v = value) ∨ (k ≠ key ∧ (k, v) ∈ b) := by
  induction b with
  | nil => simp [set]
  | cons entry rest ih =>
    obtain ⟨other, w⟩ := entry
    obtain ⟨hother, hrest⟩ := List.nodup_cons.1 hb
    have hne : ∀ {k v}, (k, v) ∈ rest → k ≠ other := fun {k v} hmem heq =>
      hother (heq ▸ List.mem_map.2 ⟨(k, v), hmem, rfl⟩)
    rw [set]
    split
    · rename_i hkey
      subst hkey
      simp only [List.mem_cons, Prod.mk.injEq]
      -- The key stands nowhere else, so that no old value of it is left.
      constructor
      · exact Or.imp_right fun hmem => ⟨hne hmem, .inr hmem⟩
      · rintro (h | ⟨hk, h | h⟩)
        · exact .inl h
        · exact absurd h.1 hk
        · exact .inr h
    · rename_i hkey
      simp only [List.mem_cons, Prod.mk.injEq, ih hrest]
      constructor
      · rintro (⟨rfl, rfl⟩ | h | h)
        · exact .inr ⟨hkey, .inl ⟨rfl, rfl⟩⟩
        · exact .inl h
        · exact .inr ⟨h.1, .inr h.2⟩
      · rintro (h | ⟨hk, h | h⟩)
        · exact .inr (.inl h)
        · exact .inl h
        · exact .inr (.inr ⟨hk, h⟩)

/-! ## Several keys -/

/-- The last one of the pairs with this key has this value. -/
def LastSets (pairs : List (Text × Text)) (key value : Text) : Prop :=
  ∃ before after, pairs = before ++ (key, value) :: after ∧ key ∉ keys after

/-- The last pair of all sets its key, and every other key is set as it was before. -/
theorem lastSets_concat :
    LastSets (pairs ++ [(key, value)]) k v ↔
      (k = key ∧ v = value) ∨ (k ≠ key ∧ LastSets pairs k v) := by
  constructor
  · rintro ⟨before, after, heq, hafter⟩
    rcases List.eq_nil_or_concat after with rfl | ⟨after, last, rfl⟩
    · obtain ⟨-, heq⟩ := List.append_inj' heq rfl
      cases heq
      exact .inl ⟨rfl, rfl⟩
    · rw [List.concat_eq_append, ← List.cons_append, ← List.append_assoc] at heq
      obtain ⟨rfl, hlast⟩ := List.append_inj' heq rfl
      cases hlast
      rw [List.concat_eq_append, keys_append, List.mem_append, not_or] at hafter
      exact .inr ⟨fun hk => hafter.2 (hk ▸ List.mem_cons_self), before, after, rfl, hafter.1⟩
  · rintro (⟨rfl, rfl⟩ | ⟨hk, before, after, rfl, hafter⟩)
    · exact ⟨pairs, [], rfl, List.not_mem_nil⟩
    · refine ⟨before, after ++ [(key, value)], by simp, ?_⟩
      rw [keys_append, List.mem_append, not_or]
      exact ⟨hafter, by simpa using hk⟩

/-- What has become of bindings when pairs have been set one after the other. -/
structure Overridden (b : Bindings) (pairs : List (Text × Text)) (result : Bindings) : Prop where
  /-- The keys that were there come first, in their order, and then the new ones in the order in
  which they first appear. -/
  keys_eq : ∃ new, FirstAppearances ((keys pairs).filter (· ∉ keys b)) new ∧
    keys result = keys b ++ new
  /-- Each key is there once. -/
  nodup : (keys result).Nodup
  /-- A key has the value that the last pair with it sets, and its own one if there is none. -/
  mem_iff : ∀ k v, (k, v) ∈ result ↔ LastSets pairs k v ∨ (k ∉ keys pairs ∧ (k, v) ∈ b)

/-- One more key is set. -/
theorem Overridden.set {result : Bindings} (h : Overridden b pairs result) (key value : Text) :
    Overridden b (pairs ++ [(key, value)]) (result.set key value) := by
  obtain ⟨new, hnew, hkeys⟩ := h.keys_eq
  refine ⟨?_, ?_, ?_⟩
  · by_cases hb : key ∈ keys b
    · -- It is one of the old keys, so that neither the new ones nor the order change.
      refine ⟨new, ?_, ?_⟩
      · have hdropped : (keys [(key, value)]).filter (· ∉ keys b) = [] := by simp [hb]
        rwa [keys_append, List.filter_append, hdropped, List.append_nil]
      · rw [keys_set, if_pos (hkeys ▸ List.mem_append_left _ hb), hkeys]
    · refine ⟨if key ∈ new then new else new ++ [key], ?_, ?_⟩
      · rw [keys_append, List.filter_append]
        have hkept : (keys [(key, value)]).filter (· ∉ keys b) = [key] := by simp [hb]
        rw [hkept]
        exact hnew.concat key
      · rw [keys_set, hkeys]
        simp only [List.mem_append, hb, false_or]
        split <;> simp
  · rw [keys_set]
    split
    · exact h.nodup
    · rename_i hkey
      exact List.nodup_append.2 ⟨h.nodup, List.pairwise_singleton _ _,
        fun x hx y hy heq => hkey (by rwa [← List.mem_singleton.1 hy, ← heq])⟩
  · intro k v
    rw [mem_set_iff h.nodup, h.mem_iff, lastSets_concat, keys_append, List.mem_append, not_or]
    have hsingle : k ∉ keys [(key, value)] ↔ k ≠ key := by simp
    rw [hsingle]
    tauto

/-- Setting several keys does what setting them one after the other does. -/
theorem overridden_setAll (hb : (keys b).Nodup) (pairs : List (Text × Text)) :
    Overridden b pairs (b.setAll pairs) := by
  induction pairs using List.reverseRecOn with
  | nil =>
    refine ⟨⟨[], ⟨fun _ => Iff.rfl, .nil⟩, (List.append_nil _).symm⟩, hb, fun k v => ?_⟩
    have hnone : ¬ LastSets [] k v := by
      rintro ⟨before, after, heq, -⟩
      simp at heq
    simp [hnone, setAll]
  | append_singleton pairs p ih =>
    rw [setAll, List.foldl_append]
    exact ih.set p.1 p.2

/-- Bindings that pairs make up set the same keys to the same values as the pairs. -/
theorem Overridden.of_ofPairs {result : Bindings} (h : Overridden b (ofPairs pairs) result) :
    Overridden b pairs result := by
  have hpairs : Overridden [] pairs (ofPairs pairs) :=
    overridden_setAll (b := []) .nil pairs
  have hfirst : FirstAppearances (keys pairs) (keys (ofPairs pairs)) := by
    obtain ⟨new, hnew, hkeys⟩ := hpairs.keys_eq
    rw [hkeys]
    simpa using hnew
  have hlast : ∀ k v, LastSets (ofPairs pairs) k v ↔ LastSets pairs k v := by
    intro k v
    have hmem : (k, v) ∈ ofPairs pairs ↔ LastSets pairs k v := by
      simp [hpairs.mem_iff k v]
    rw [← hmem]
    constructor
    · rintro ⟨before, after, heq, -⟩
      simp [heq]
    · -- Each key is there once, so that any pair with it is the last one.
      intro hk
      obtain ⟨before, after, heq⟩ := List.append_of_mem hk
      have hnodup := hpairs.nodup
      rw [heq, keys_append, keys_cons] at hnodup
      exact ⟨before, after, heq, (List.nodup_cons.1 (List.nodup_append.1 hnodup).2.1).1⟩
  obtain ⟨new, hnew, hkeys⟩ := h.keys_eq
  refine ⟨⟨new, (hfirst.filter _).trans hnew, hkeys⟩, h.nodup, fun k v => ?_⟩
  rw [h.mem_iff, hlast, hfirst.mem_iff]

end Stencil.Bindings
