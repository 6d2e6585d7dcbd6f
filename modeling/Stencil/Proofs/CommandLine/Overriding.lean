import Stencil.CommandLine.Setup
import Stencil.Config.Load
import Stencil.Proofs.Data.Bindings
import Stencil.Proofs.Data.Mapping
import Stencil.Proofs.Text.Split

/-!
# Word rules of the command line

Where the word rules of a resolver come from. `resolver_overrides` says for which configurations and
arguments there is a resolver, which argument is named where there is none, and which rules it has:
those of the configuration in their order, each with the value that the command line gives it last,
and behind them the new ones.

Arguments are read one by one (`keyValue_eq_ok_iff`) and all or nothing (`mapM_eq_ok_iff`,
`mapM_eq_error_iff`). What comes of the configured bindings is `Overridden`, and the rules are these
bindings (`ofPairs?_eq_some_iff`). That the configured keys are distinct is no restriction: every
configuration that is loaded has each key once (`nodup_keys_words_of_load`).
-/

namespace Stencil

/-! ## Rules -/

/-- The key and the value of a rule. -/
def WordRule.pair (r : WordRule) : Text × Text :=
  (r.key, r.value)

/-- Rules are made up of the bindings that are their keys and values. -/
theorem WordRule.ofPairs?_eq_some_iff {pairs : List (Text × Text)} {rules : List WordRule} :
    ofPairs? pairs = some rules ↔ rules.map pair = pairs := by
  induction pairs generalizing rules with
  | nil => simp [ofPairs?, eq_comm]
  | cons p pairs ih =>
    obtain ⟨key, value⟩ := p
    rw [ofPairs?]
    constructor
    · intro h
      split at h
      · cases h
      · obtain ⟨rest, hrest, rfl⟩ := Option.map_eq_some_iff.1 h
        rw [List.map_cons, ih.1 hrest]
        rfl
    · intro h
      obtain ⟨r, rest, rfl, hr, hrest⟩ := List.map_eq_cons_iff.1 h
      cases hr
      rw [dif_neg r.key_ne_nil, ih.2 hrest]
      rfl

/-- There are rules exactly if no key is empty. -/
theorem WordRule.ofPairs?_eq_none_iff {pairs : List (Text × Text)} :
    ofPairs? pairs = none ↔ [] ∈ Bindings.keys pairs := by
  induction pairs with
  | nil => simp [ofPairs?]
  | cons p pairs ih =>
    obtain ⟨key, value⟩ := p
    rw [ofPairs?, Bindings.keys_cons, List.mem_cons, ← ih]
    by_cases hkey : key = []
    · simp [hkey]
    · rw [dif_neg hkey, Option.map_eq_none_iff, or_iff_right (Ne.symm hkey)]

/-! ## Configurations -/

/-- What a field that may be missing is read as has a property that the default has and every value
that is read. -/
theorem Yaml.Tree.field?_induction {α : Type} {P : α → Prop} {read : Node → Option α}
    {fields : List (Text × Node)} {key : String} {default a : α}
    (h : field? read fields key default = some a) (hdefault : P default)
    (hread : ∀ n a, read n = some a → P a) : P a := by
  unfold field? at h
  split at h
  · cases h
    exact hdefault
  · exact hread _ _ h
  · cases h

namespace Config

open Bindings (keys)

/-- The word rules that are read have each key once. -/
theorem nodup_keys_words_of_ofTree? {t : Yaml.Tree} {c : Config} (h : ofTree? t = some c) :
    (keys c.words).Nodup := by
  have hbindings : ∀ n b, t.bindings? n = some b → (keys b).Nodup := by
    intro n b hb
    simp only [Yaml.Tree.bindings?, Option.bind_eq_bind, Option.bind_eq_some_iff] at hb
    obtain ⟨fields, -, pairs, -, hb⟩ := hb
    cases hb
    exact (Bindings.overridden_setAll (b := []) .nil pairs).nodup
  simp only [ofTree?, Option.bind_eq_bind, Option.bind_eq_some_iff] at h
  obtain ⟨fields, -, root, -, output, -, words, hwords, values, -, commands, -, timeout, -, logging,
    -, h⟩ := h
  cases h
  exact Yaml.Tree.field?_induction (P := fun b => (keys b).Nodup) hwords .nil hbindings

/-- The word rules of a configuration that has been loaded have each key once. -/
theorem nodup_keys_words_of_load {world : World} {given : Option Path} {c : Config}
    (h : load world given = .ok c) : (keys c.words).Nodup := by
  unfold load at h
  cases hfile : readFile world.files (given.getD (findFile world)) with
  | error e =>
    rw [hfile] at h
    cases h
  | ok c' =>
    rw [hfile] at h
    cases h
    -- The environment does not change the rules.
    show (keys c'.words).Nodup
    unfold readFile at hfile
    split at hfile
    · cases hfile
      exact .nil
    · split at hfile
      · cases hfile
      · split at hfile
        · rename_i c'' hparse
          cases hfile
          obtain ⟨t, -, htree⟩ := Option.bind_eq_some_iff.1 hparse
          exact nodup_keys_words_of_ofTree? htree
        · cases hfile

end Config

namespace CommandLine

/-! ## Arguments -/

/-- An argument that gives a key a value: the key is what stands before the first equals sign, and
it is not empty. -/
def Assigns (argument key value : Text) : Prop :=
  argument = key ++ '=' :: value ∧ '=' ∉ key ∧ key ≠ []

/-- An argument is read as the key and the value that it assigns. -/
theorem keyValue_eq_ok_iff {argument key value : Text} :
    keyValue argument = .ok (key, value) ↔ Assigns argument key value := by
  have hsplit : Text.splitFirst? '=' argument = some (key, value) ↔
      argument = key ++ '=' :: value ∧ '=' ∉ key := Text.splitFirst?_eq_some_iff
  rw [Assigns, ← and_assoc, ← hsplit, keyValue]
  split
  · rename_i c k v heq
    rw [heq, Except.ok.injEq, Option.some.injEq]
    constructor
    · intro h
      obtain ⟨rfl, rfl⟩ := Prod.mk.inj h
      exact ⟨rfl, List.cons_ne_nil _ _⟩
    · exact And.left
  · rename_i hnone
    constructor
    · intro h
      cases h
    · rintro ⟨heq, hkey⟩
      obtain ⟨c, k, rfl⟩ := List.exists_cons_of_ne_nil hkey
      exact absurd heq (hnone c k value)

/-- An argument that assigns nothing is the one that is named. -/
theorem keyValue_eq_error {argument : Text} (h : ¬ ∃ key value, Assigns argument key value) :
    keyValue argument = .error (.invalidSubstitution argument) := by
  cases hread : keyValue argument with
  | ok p => exact absurd ⟨p.1, p.2, keyValue_eq_ok_iff.1 hread⟩ h
  | error e =>
    unfold keyValue at hread
    split at hread <;> cases hread
    rfl

/-! ## The resolver -/

/-- The ways in which setting up the resolver can end: an argument that assigns nothing, an empty
key, or a resolver. -/
theorem resolver_cases (c : Config) (arguments : List Text) :
    (∃ e, arguments.mapM keyValue = .error e ∧ resolver c arguments = .error e) ∨
    ∃ pairs, arguments.mapM keyValue = .ok pairs ∧
      ((WordRule.ofPairs? (c.words.setAll (Bindings.ofPairs pairs)) = none ∧
        resolver c arguments = .error .emptyKey) ∨
      ∃ words, WordRule.ofPairs? (c.words.setAll (Bindings.ofPairs pairs)) = some words ∧
        resolver c arguments = .ok {
          registry := registry c
          words
          root := c.root
          timeout := c.timeoutSeconds.map (1000 * ·) }) := by
  unfold resolver substitutions
  cases hread : arguments.mapM keyValue with
  | error e => exact .inl ⟨e, rfl, rfl⟩
  | ok pairs =>
    refine .inr ⟨pairs, rfl, ?_⟩
    cases hwords : WordRule.ofPairs? (c.words.setAll (Bindings.ofPairs pairs)) with
    | none =>
      refine .inl ⟨rfl, ?_⟩
      simp only [Except.map, bind, Except.bind, hwords]
    | some words =>
      refine .inr ⟨words, rfl, ?_⟩
      simp only [Except.map, bind, Except.bind, hwords, pure, Except.pure]

variable {c : Config} {arguments : List Text}

/-- Arguments that can be read assign the keys to the values that they are read as. -/
theorem assigns_of_mapM {pairs : List (Text × Text)} (h : arguments.mapM keyValue = .ok pairs) :
    List.Forall₂ (fun a p => Assigns a p.1 p.2) arguments pairs :=
  (mapM_eq_ok_iff.1 h).imp fun _ _ => keyValue_eq_ok_iff.1

/-- Arguments can be read if each of them assigns a key. -/
theorem exists_mapM_keyValue (h : ∀ a ∈ arguments, ∃ key value, Assigns a key value) :
    ∃ pairs, arguments.mapM keyValue = .ok pairs := by
  cases hread : arguments.mapM keyValue with
  | ok pairs => exact ⟨pairs, rfl⟩
  | error e =>
    obtain ⟨before, a, after, rfl, -, ha⟩ := mapM_eq_error_iff.1 hread
    obtain ⟨key, value, hassigns⟩ := h a (by simp)
    cases ha.symm.trans (keyValue_eq_ok_iff.2 hassigns)

/-- Each argument of a list that can be read assigns a key. -/
theorem exists_assigns {pairs : List (Text × Text)}
    (h : List.Forall₂ (fun a p => Assigns a p.1 p.2) arguments pairs) :
    ∀ a ∈ arguments, ∃ key value, Assigns a key value := by
  induction h with
  | nil => simp
  | cons hp _ ih => exact List.forall_mem_cons.2 ⟨⟨_, _, hp⟩, ih⟩

/-- The configured bindings with those of the arguments. -/
theorem overridden_setAll_ofPairs (hc : (Bindings.keys c.words).Nodup)
    (pairs : List (Text × Text)) :
    Bindings.Overridden c.words pairs (c.words.setAll (Bindings.ofPairs pairs)) :=
  (Bindings.overridden_setAll hc _).of_ofPairs

/-- No argument brings in an empty key. -/
theorem nil_mem_keys_iff (hc : (Bindings.keys c.words).Nodup) {pairs : List (Text × Text)}
    (hpairs : List.Forall₂ (fun a p => Assigns a p.1 p.2) arguments pairs) :
    [] ∈ Bindings.keys (c.words.setAll (Bindings.ofPairs pairs)) ↔ [] ∈ Bindings.keys c.words := by
  have hne : [] ∉ Bindings.keys pairs := by
    induction hpairs with
    | nil => exact List.not_mem_nil
    | cons hp _ ih =>
      rw [Bindings.keys_cons, List.mem_cons, not_or]
      exact ⟨hp.2.2.symm, ih⟩
  -- The new keys are keys of the arguments.
  obtain ⟨new, hnew, hkeys⟩ := (overridden_setAll_ofPairs hc pairs).keys_eq
  rw [hkeys, List.mem_append, or_iff_left]
  exact fun hnil => hne (List.mem_filter.1 ((hnew.mem_iff []).1 hnil)).1

/-- If every argument assigns a key, setting up the resolver ends in one of two ways, and which one
it is depends on the configured keys. -/
theorem resolver_of_assigns (hc : (Bindings.keys c.words).Nodup)
    (h : ∀ a ∈ arguments, ∃ key value, Assigns a key value) :
    ([] ∈ Bindings.keys c.words ∧ resolver c arguments = .error .emptyKey) ∨
      ([] ∉ Bindings.keys c.words ∧ ∃ r, resolver c arguments = .ok r) := by
  obtain ⟨pairs, hpairs⟩ := exists_mapM_keyValue h
  have hkeys := nil_mem_keys_iff hc (assigns_of_mapM hpairs)
  rcases resolver_cases c arguments with ⟨e, hread, -⟩ | ⟨pairs', hread, hwords⟩
  · cases hread.symm.trans hpairs
  · cases hread.symm.trans hpairs
    rcases hwords with ⟨hnone, hr⟩ | ⟨words, hsome, hr⟩
    · exact .inl ⟨hkeys.1 (WordRule.ofPairs?_eq_none_iff.1 hnone), hr⟩
    · refine .inr ⟨fun hnil => ?_, _, hr⟩
      cases hsome.symm.trans (WordRule.ofPairs?_eq_none_iff.2 (hkeys.2 hnil))

/-- The first argument that assigns nothing is the one that is named. -/
theorem resolver_of_not_assigns {before after : List Text} {a : Text}
    (hbefore : ∀ b ∈ before, ∃ key value, Assigns b key value)
    (ha : ¬ ∃ key value, Assigns a key value) :
    resolver c (before ++ a :: after) = .error (.invalidSubstitution a) := by
  have hread : (before ++ a :: after).mapM keyValue = .error (.invalidSubstitution a) := by
    refine mapM_eq_error_iff.2 ⟨before, a, after, rfl, fun b hb => ?_, keyValue_eq_error ha⟩
    obtain ⟨key, value, hassigns⟩ := hbefore b hb
    exact ⟨_, keyValue_eq_ok_iff.2 hassigns⟩
  rcases resolver_cases c (before ++ a :: after) with ⟨e, hread', hr⟩ | ⟨pairs, hread', -⟩
  · cases hread'.symm.trans hread
    exact hr
  · cases hread'.symm.trans hread

/-- The rules of a resolver are what has become of the configured ones. -/
theorem overridden_of_resolver (hc : (Bindings.keys c.words).Nodup) {r : Resolver}
    (h : resolver c arguments = .ok r) :
    ∃ pairs, List.Forall₂ (fun a p => Assigns a p.1 p.2) arguments pairs ∧
      Bindings.Overridden c.words pairs (r.words.map WordRule.pair) := by
  rcases resolver_cases c arguments with ⟨e, -, hr⟩ | ⟨pairs, hread, ⟨-, hr⟩ | ⟨words, hwords, hr⟩⟩
  · cases h.symm.trans hr
  · cases h.symm.trans hr
  · cases h.symm.trans hr
    refine ⟨pairs, assigns_of_mapM hread, ?_⟩
    rw [WordRule.ofPairs?_eq_some_iff.1 hwords]
    exact overridden_setAll_ofPairs hc pairs

/-- The resolver has the configured word rules in their order, each with the value that the last
argument with its key assigns if there is one, and behind them a rule for each new key of the
arguments, in the order in which the keys first appear; it applies them in this order. There is a
resolver exactly if every argument assigns a key and no configured key is empty, and of the
arguments that do not, the first one is named. -/
theorem resolver_overrides (c : Config) (arguments : List Text)
    (hc : (Bindings.keys c.words).Nodup) :
    ((∃ r, resolver c arguments = .ok r) ↔
      (∀ a ∈ arguments, ∃ key value, Assigns a key value) ∧ [] ∉ Bindings.keys c.words) ∧
    (∀ before a after, arguments = before ++ a :: after →
      (∀ b ∈ before, ∃ key value, Assigns b key value) → (¬ ∃ key value, Assigns a key value) →
      ∃ e, resolver c arguments = .error e ∧
        e.messages = ["Invalid substitution '".toList ++ a ++ "'. Expected 'KEY=VALUE'".toList]) ∧
    ((∀ a ∈ arguments, ∃ key value, Assigns a key value) → [] ∈ Bindings.keys c.words →
      ∃ e, resolver c arguments = .error e ∧ e.messages =
        ["Invalid static substitutions".toList, "Static substitution key cannot be empty".toList]) ∧
    ∀ r, resolver c arguments = .ok r →
      (∀ text, (r.prepare text).text = r.words.foldl (fun s rule => rule.apply s) text) ∧
      ∃ pairs, List.Forall₂ (fun a p => Assigns a p.1 p.2) arguments pairs ∧
        Bindings.Overridden c.words pairs (r.words.map WordRule.pair) := by
  refine ⟨⟨?_, ?_⟩, ?_, ?_, ?_⟩
  · rintro ⟨r, hr⟩
    obtain ⟨pairs, hpairs, -⟩ := overridden_of_resolver hc hr
    have hassigns := exists_assigns hpairs
    rcases resolver_of_assigns hc hassigns with ⟨-, he⟩ | ⟨hne, -⟩
    · cases hr.symm.trans he
    · exact ⟨hassigns, hne⟩
  · rintro ⟨hassigns, hne⟩
    exact (resolver_of_assigns hc hassigns).elim (fun h => absurd h.1 hne) And.right
  · rintro before a after rfl hbefore ha
    exact ⟨_, resolver_of_not_assigns hbefore ha, rfl⟩
  · intro hassigns hnil
    rcases resolver_of_assigns hc hassigns with ⟨-, he⟩ | ⟨hne, -⟩
    · exact ⟨_, he, rfl⟩
    · exact absurd hnil hne
  · exact fun r hr => ⟨fun _ => rfl, overridden_of_resolver hc hr⟩

/-- A configured key is assigned twice, a new key comes before it, and a value has an equals sign
in it or is empty. -/
theorem resolver_overrides_repeated :
    (Bindings.keys [("A".toList, "1".toList), ("B".toList, "2".toList)]).Nodup ∧
    ∃ r pairs,
      resolver { words := [("A".toList, "1".toList), ("B".toList, "2".toList)] }
        ["C=3".toList, "B=x=y".toList, "C=".toList, "B=y=".toList] = .ok r ∧
      List.Forall₂ (fun a p => Assigns a p.1 p.2)
        ["C=3".toList, "B=x=y".toList, "C=".toList, "B=y=".toList] pairs ∧
      Bindings.Overridden [("A".toList, "1".toList), ("B".toList, "2".toList)] pairs
        (r.words.map WordRule.pair) ∧
      r.words.map WordRule.pair =
        [("A".toList, "1".toList), ("B".toList, "y=".toList), ("C".toList, [])] := by
  have hc : (Bindings.keys [("A".toList, "1".toList), ("B".toList, "2".toList)]).Nodup := by decide
  obtain ⟨-, -, -, h⟩ := resolver_overrides
    { words := [("A".toList, "1".toList), ("B".toList, "2".toList)] }
    ["C=3".toList, "B=x=y".toList, "C=".toList, "B=y=".toList] hc
  obtain ⟨r, hr, hwords⟩ : ∃ r, resolver
      { words := [("A".toList, "1".toList), ("B".toList, "2".toList)] }
      ["C=3".toList, "B=x=y".toList, "C=".toList, "B=y=".toList] = .ok r ∧
      r.words.map WordRule.pair =
        [("A".toList, "1".toList), ("B".toList, "y=".toList), ("C".toList, [])] := ⟨_, rfl, rfl⟩
  obtain ⟨-, pairs, hpairs, hoverridden⟩ := h r hr
  exact ⟨hc, r, pairs, hr, hpairs, hoverridden, hwords⟩

end CommandLine

end Stencil
