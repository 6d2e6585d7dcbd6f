import Stencil.Proofs.Resolve.Reporting

/-!
# Discovery is called once for each placeholder

A compile calls discovery once for each distinct token that is a variable of a registered type, with
the key of the token, and for no other token (`discover_once`), whatever the order of the tasks and
whatever providers answer. A provider that counts its calls is told the number of those that came
before, and its one answer decides on every occurrence of the token. Tokens without a call come to
what they come to with any other providers under the same names.

The history of calls is followed through the tasks: each adds the call of its placeholder, if there
is one (`calls_runTask`), so that a run adds those of all placeholders in the order of the tasks
(`calls_foldl_runTask`); and since each task runs once, what is found under its index is what it
came to then (`lookup_foldl_runTask`).
-/

namespace Stencil.Resolver

variable {r r' : Resolver} {world : World}

/-! ## Calls of placeholders -/

/-- The call of discovery that a placeholder leads to, as type name and key. Only variables of
registered types lead to one. -/
def call? (r : Resolver) (p : Placeholder) : Option (Text × Text) :=
  match p.body with
  | .lookup v => if r.registry.contains v.typeName then some (v.typeName, v.key) else none
  | .file _ => none
  | .malformed _ => none

/-- The calls that the tasks with these indices lead to, the first one first. -/
def callsOf (r : Resolver) (ps : List Placeholder) (order : List Nat) : Calls :=
  order.filterMap fun i => ps[i]?.bind r.call?

/-- The call of a variable of a registered type is that of its type and key. -/
theorem call?_of_lookup {p : Placeholder} {v : Variable} {provider : Provider}
    (h : p.body = .lookup v) (hget : r.registry.get? v.typeName = some provider) :
    r.call? p = some (v.typeName, v.key) := by
  have hcontains : r.registry.contains v.typeName := Option.isSome_iff_exists.2 ⟨provider, hget⟩
  simp only [call?, h, if_pos hcontains]

/-- A variable without a call is one of a type that is not registered. -/
theorem get?_of_call?_eq_none {p : Placeholder} {v : Variable} (h : p.body = .lookup v)
    (hcall : r.call? p = none) : r.registry.get? v.typeName = none := by
  cases hget : r.registry.get? v.typeName with
  | none => rfl
  | some provider => cases hcall.symm.trans (call?_of_lookup h hget)

/-- An attempt at a placeholder adds its call to the history, and nothing else. -/
theorem calls_attempt (r : Resolver) (world : World) (calls : Calls) (p : Placeholder) :
    (r.attempt world calls p).2 = (r.call? p).toList ++ calls := by
  cases hbody : p.body with
  | malformed e =>
    simp only [attempt, call?, hbody]
    rfl
  | file path =>
    simp only [attempt, call?, hbody]
    rfl
  | lookup v =>
    cases hget : r.registry.get? v.typeName with
    | none =>
      have hcall : r.call? p = none := by
        simp [call?, hbody, Registry.contains, hget]
      rw [hcall, attempt, hbody]
      simp only [hget]
      rfl
    | some provider =>
      rw [call?_of_lookup hbody hget, attempt, hbody]
      simp only [hget]
      rfl

/-- The attempt at a variable of a registered type goes on from the one answer of its provider,
which is told how often it has been called before. -/
theorem attempt_of_lookup {p : Placeholder} {v : Variable} {provider : Provider}
    (h : p.body = .lookup v) (hget : r.registry.get? v.typeName = some provider) (calls : Calls) :
    (r.attempt world calls p).1 = proceed provider (r.context world) (p.request v)
      (provider.discover (r.context world) (calls.count v.typeName) v.key) := by
  rw [attempt, h]
  simp only [hget]
  rfl

/-- A placeholder without a call comes to the same with any other providers. -/
theorem result?_of_call?_eq_none {p : Placeholder} (h : r.call? p = none) (h' : r'.call? p = none)
    (hroot : r'.root = r.root) (calls calls' : Calls) :
    r'.result? world calls' p = r.result? world calls p := by
  have hagree : (∃ res, r.Settled world p res ∧ r'.Settled world p res) →
      r'.result? world calls' p = r.result? world calls p := by
    rintro ⟨res, hres, hres'⟩
    rw [hres, hres']
  cases hbody : p.body with
  | malformed e => exact hagree (settled_of_malformed hbody)
  | file path => exact hagree (settled_of_file hbody hroot)
  | lookup v =>
    have hget := get?_of_call?_eq_none hbody h
    have hget' := get?_of_call?_eq_none hbody h'
    rw [result?, result?, attempt_of_unregistered hbody hget, attempt_of_unregistered hbody hget']
    rfl

/-! ## Calls of runs -/

/-- A task adds the call of its placeholder to the history. -/
theorem calls_runTask (ps : List Placeholder) (st : Progress) (index : Nat) :
    (r.runTask world ps st index).calls = (ps[index]?.bind r.call?).toList ++ st.calls := by
  unfold runTask
  cases ps[index]? with
  | none => rfl
  | some p =>
    simp only [Option.bind_some, ← calls_attempt r world]
    split <;> rfl

/-- Tasks add the calls of their placeholders to the history, the last one first. -/
theorem calls_foldl_runTask (ps : List Placeholder) (order : List Nat) (st : Progress) :
    (order.foldl (r.runTask world ps) st).calls = (r.callsOf ps order).reverse ++ st.calls := by
  induction order generalizing st with
  | nil => rfl
  | cons i order ih =>
    rw [List.foldl_cons, ih, calls_runTask, callsOf, callsOf, List.filterMap_cons]
    cases ps[i]?.bind r.call? <;> simp

/-- If each placeholder has its task once, then the calls are those of the placeholders. -/
theorem callsOf_perm {ps : List Placeholder} {order : List Nat}
    (h : order.Perm (List.range ps.length)) : (r.callsOf ps order).Perm (ps.filterMap r.call?) := by
  have hrange : (List.range ps.length).filterMap (fun i => ps[i]?.bind r.call?)
      = ps.filterMap r.call? := by
    have hget : (List.range ps.length).map (fun i => ps[i]?) = ps.map some := by
      exact List.ext_getElem (by simp) fun i _ _ => by simp
    have hbind := congrArg (List.filterMap (·.bind r.call?)) hget
    rwa [List.filterMap_map, List.filterMap_map] at hbind
  exact hrange ▸ h.filterMap _

/-! ## Results of runs -/

/-- A task leaves what is found under other indices as it is. -/
theorem lookup_runTask_of_ne {ps : List Placeholder} {st : Progress} {i j : Nat} (h : j ≠ i) :
    (r.runTask world ps st j).results.lookup i = st.results.lookup i := by
  cases hp : ps[j]? with
  | none => rw [runTask, hp]
  | some p =>
    rw [runTask_results hp, List.lookup_append]
    cases r.result? world st.calls p with
    | none => rfl
    | some res => simp [List.lookup_cons, beq_eq_false_iff_ne.2 (Ne.symm h)]

/-- Tasks with other indices leave what is found under an index as it is. -/
theorem lookup_foldl_runTask_of_not_mem {ps : List Placeholder} {order : List Nat} {i : Nat}
    (h : i ∉ order) (st : Progress) :
    (order.foldl (r.runTask world ps) st).results.lookup i = st.results.lookup i := by
  induction order generalizing st with
  | nil => rfl
  | cons j order ih =>
    obtain ⟨hj, horder⟩ := not_or.1 (List.mem_cons.not.1 h)
    rw [List.foldl_cons, ih horder, lookup_runTask_of_ne (Ne.symm hj)]

/-- What is found under an index once the tasks have run is what its task came to after the calls of
the tasks before it. -/
theorem lookup_foldl_runTask {ps : List Placeholder} {before after : List Nat} {i : Nat}
    {p : Placeholder} (hp : ps[i]? = some p) (hbefore : i ∉ before) (hafter : i ∉ after)
    (calls : Calls) :
    ((before ++ i :: after).foldl (r.runTask world ps) ⟨[], calls⟩).results.lookup i
      = r.result? world ((r.callsOf ps before).reverse ++ calls) p := by
  have hnone : (before.foldl (r.runTask world ps) ⟨[], calls⟩).results.lookup i = none :=
    lookup_foldl_runTask_of_not_mem hbefore _
  have hcalls : (before.foldl (r.runTask world ps) ⟨[], calls⟩).calls
      = (r.callsOf ps before).reverse ++ calls :=
    calls_foldl_runTask ps before _
  rw [List.foldl_append, List.foldl_cons, lookup_foldl_runTask_of_not_mem hafter,
    runTask_results hp, List.lookup_append, hnone, hcalls]
  cases r.result? world ((r.callsOf ps before).reverse ++ calls) p with
  | none => rfl
  | some res => simp

/-- What is found under an index is the result in its place. -/
theorem lookup_of_compileIn {order : List Nat} {calls : Calls} {text : Text} {c : Compilation}
    (h : (r.compileIn world order calls text).1 = some c) {i : Nat}
    (hi : i < (r.prepare text).placeholders.length) :
    c.results[i]? = (order.foldl (r.runTask world (r.prepare text).placeholders)
      ⟨[], calls⟩).results.lookup i := by
  obtain ⟨results, hresults, rfl⟩ := Option.map_eq_some_iff.1 h
  have hmap := congrArg (·[i]?) (map_of_mapM hresults)
  simp only [List.getElem?_map, List.getElem?_range hi, Option.map_some] at hmap
  obtain ⟨res, hres, hlookup⟩ := Option.map_eq_some_iff.1 hmap.symm
  exact hres.trans hlookup

/-- The result of a placeholder is what its task came to after the calls of the tasks before it. -/
theorem getElem?_of_compileIn {order : List Nat} {calls : Calls} {text : Text} {c : Compilation}
    (h : (r.compileIn world order calls text).1 = some c) (hnodup : order.Nodup)
    {before after : List Nat} {i : Nat} (horder : order = before ++ i :: after) {p : Placeholder}
    (hp : (r.prepare text).placeholders[i]? = some p) :
    c.results[i]? = r.result? world
      ((r.callsOf (r.prepare text).placeholders before).reverse ++ calls) p := by
  subst horder
  obtain ⟨-, hcons, hdisjoint⟩ := List.nodup_append.1 hnodup
  have hbefore : i ∉ before := fun hmem => hdisjoint i hmem i List.mem_cons_self rfl
  rw [lookup_of_compileIn h (List.getElem?_eq_some_iff.1 hp).1,
    lookup_foldl_runTask hp hbefore (List.nodup_cons.1 hcons).1]

/-! ## Once for each token -/

/-- The results of a compilation come from one answer for each token that leads to a call. -/
structure Answered (r : Resolver) (world : World) (order : List Nat) (calls : Calls) (text : Text)
    (c : Compilation) : Prop where
  /-- There is one result for each distinct token, in the order in which they first appear. -/
  appearances : Template.FirstAppearances
    (Template.tokens (Token.pieces (WordRule.applyAll r.words text))) (c.results.map (·.raw))
  /-- The result of a variable of a registered type is what comes of the answer of its provider,
  which is told how often it had been called before. -/
  answered : ∀ before i after p v provider, order = before ++ i :: after →
    (r.prepare text).placeholders[i]? = some p → p.body = .lookup v →
    r.registry.get? v.typeName = some provider →
    c.results[i]? = r.settle p (proceed provider (r.context world) (p.request v)
      (provider.discover (r.context world) (Calls.count
        ((r.callsOf (r.prepare text).placeholders before).reverse ++ calls) v.typeName) v.key))
  /-- The result of any other placeholder is what it comes to with any other providers. -/
  unasked : ∀ (i : Nat) p (r' : Resolver) calls', (r.prepare text).placeholders[i]? = some p →
    r.call? p = none → r'.call? p = none → r'.root = r.root →
    c.results[i]? = r'.result? world calls' p
  /-- What is found under the token of a result is this result. -/
  found : ∀ res ∈ c.results, c.find? res.raw = some res
  /-- All occurrences of a token get the value of its result. -/
  spliced : Spliced c.template.placeholders (fun raw => (c.find? raw).map (·.outcome.value)) 0
    c.template.occurrences (WordRule.applyAll r.words text) c.output

variable (r world)

/-- In a compile, discovery is called once for each distinct token that is a variable of a
registered type, with the type and key of the token, and not at all for others, whatever the order
of the tasks. Each result comes from the one answer, all occurrences of a token get its value, and
the results are listed in the order in which the tokens first appear. There is a compilation if
discovery always comes to an end or there is a timeout. -/
theorem discover_once (order : List Nat) (calls : Calls) (text : Text)
    (horder : order.Perm (List.range (r.prepare text).placeholders.length)) :
    Template.FirstAppearances (Template.tokens (Token.pieces (WordRule.applyAll r.words text)))
        ((r.prepare text).placeholders.map (·.raw)) ∧
      (∀ p ∈ (r.prepare text).placeholders, p = Placeholder.parse p.raw) ∧
      (r.compileIn world order calls text).2
        = (r.callsOf (r.prepare text).placeholders order).reverse ++ calls ∧
      (r.callsOf (r.prepare text).placeholders order).Perm
        ((r.prepare text).placeholders.filterMap r.call?) ∧
      (∀ c, (r.compileIn world order calls text).1 = some c →
        r.Answered world order calls text c) ∧
      (r.Ends world → ∃ c, (r.compileIn world order calls text).1 = some c) := by
  have hnodup : order.Nodup := horder.nodup_iff.2 List.nodup_range
  refine ⟨?_, fun p hp => (Template.mem_placeholders.1 hp).2, calls_foldl_runTask _ order _,
    callsOf_perm horder, fun c hc => ?_, fun hends => hends.exists_compilation horder calls⟩
  · rw [prepare]
    exact Template.firstAppearances_parse _
  · have hraws := raws_of_compileIn hc
    have htemplate := (results_of_compileIn hc).1
    have happearances := Template.firstAppearances_eraseDups
      (Template.tokens (Token.pieces (WordRule.applyAll r.words text)))
    rw [← hraws] at happearances
    refine
      { appearances := happearances
        answered := ?_
        unasked := ?_
        found := fun res hres => c.find?_of_mem happearances.nodup hres
        spliced := ?_ }
    · intro before i after p v provider hsplit hp hbody hget
      rw [getElem?_of_compileIn hc hnodup hsplit hp, result?, attempt_of_lookup hbody hget]
    · intro i p r' calls' hp hcall hcall' hroot
      have hi := (List.getElem?_eq_some_iff.1 hp).1
      obtain ⟨before, after, hsplit⟩ :=
        List.append_of_mem (horder.mem_iff.2 (List.mem_range.2 hi))
      rw [getElem?_of_compileIn hc hnodup hsplit hp]
      exact (result?_of_call?_eq_none hcall hcall' hroot _ _).symm
    · rw [Compilation.output, htemplate]
      exact Template.spliced_filled _ 0 _ fun raw hraw => List.mem_eraseDups.2 hraw

/-- A resolver with a provider that offers the number of its calls so far. -/
def counting : Resolver where
  registry := ⟨[("n".toList, .ofDiscovery "counting" []
    (fun _ earlier _ => .found [.text (Text.ofNat earlier)]) Scripted.render)]⟩
  root := ⟨".".toList⟩
  timeout := some 1000

/-- Two variables with a call, the first one in two places, and three tokens without one. The task
of the other variable runs first and has the first call, so that both places of the first one get
the number of the second call. -/
theorem discover_once_counting :
    let world : World := ⟨⟨.empty, []⟩, ⟨[]⟩, ⟨0, 0, 0⟩⟩
    let text := "{{$n.a}} {{?}} {{$m}} {{/x}} {{$n.b}} {{$n.a}}".toList
    [4, 2, 3, 0, 1].Perm (List.range (counting.prepare text).placeholders.length) ∧
      (counting.compileIn world [4, 2, 3, 0, 1] [] text).2
        = [("n".toList, "a".toList), ("n".toList, "b".toList)] ∧
      ∃ c, (counting.compileIn world [4, 2, 3, 0, 1] [] text).1 = some c ∧
        counting.Answered world [4, 2, 3, 0, 1] [] text c ∧
        c.results[0]?.map (·.outcome.value) = some "1".toList := by
  intro world text
  have hplaceholders : (counting.prepare text).placeholders
      = ["{{$n.a}}", "{{?}}", "{{$m}}", "{{/x}}", "{{$n.b}}"].map (.parse ·.toList) := by
    decide +kernel
  have horder : [4, 2, 3, 0, 1].Perm (List.range (counting.prepare text).placeholders.length) := by
    rw [hplaceholders]
    decide
  have hends : counting.Ends world := fun htimeout => by cases htimeout
  have hhistory : counting.callsOf (counting.prepare text).placeholders [4, 2, 3, 0, 1]
      = [("n".toList, "b".toList), ("n".toList, "a".toList)] := by decide +kernel
  obtain ⟨-, -, hcalls, -, hanswered, hexists⟩ :=
    discover_once counting world [4, 2, 3, 0, 1] [] text horder
  obtain ⟨c, hc⟩ := hexists hends
  have hc' := hanswered c hc
  have hbody : (Placeholder.parse "{{$n.a}}".toList).body
      = .lookup ⟨"n".toList, "a".toList, [], none⟩ := by decide +kernel
  have hearlier : counting.callsOf (counting.prepare text).placeholders [4, 2, 3]
      = [("n".toList, "b".toList)] := by decide +kernel
  refine ⟨horder, by rw [hcalls, hhistory]; rfl, c, hc, hc', ?_⟩
  rw [hc'.answered [4, 2, 3] 0 [1] _ _ _ rfl (by rw [hplaceholders]; rfl) hbody rfl, hearlier]
  rfl

end Stencil.Resolver
