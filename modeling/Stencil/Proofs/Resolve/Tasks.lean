import Stencil.Proofs.Data.Mapping
import Stencil.Proofs.Files.Tree
import Stencil.Resolve.Compile

/-!
# Tasks and their results

What a compile has once its tasks have run, in whatever order they do. `runTask` adds at most one
result, under the index of its placeholder; whatever is found under an index afterwards is what the
task of that placeholder comes to after some calls of discovery (`accounted_foldl`), and if no task
hangs, something is found under every index that is in the order (`reported_foldl`). A compilation
therefore has one result for each placeholder, in its place (`results_of_compileIn`), and there is
one whenever no task hangs (`exists_compilation`).
-/

namespace Stencil

/-- The result of a placeholder names its token. -/
theorem Resolver.raw_of_proceed {provider : Provider} {context : Context} {q : Request}
    {d : Discovery} {res : Resolution}
    (h : Resolver.proceed provider context q d = .finished res) : res.raw = q.raw := by
  cases d <;> cases h <;> rfl

namespace Resolver

variable (r : Resolver) (world : World)

/-- What the task of a placeholder comes to after the given calls of discovery. A task that hangs
comes to nothing. -/
def result? (calls : Calls) (p : Placeholder) : Option Resolution :=
  r.settle p (r.attempt world calls p).1

variable {r world}

/-- Whatever the task of a placeholder comes to names its token. -/
theorem raw_of_result? {calls : Calls} {p : Placeholder} {res : Resolution}
    (h : r.result? world calls p = some res) : res.raw = p.raw := by
  have hfinished : ∀ res, (r.attempt world calls p).1 = .finished res → res.raw = p.raw := by
    intro res hres
    unfold attempt at hres
    split at hres
    · cases hres
      rfl
    · exact raw_of_proceed hres
    · split at hres
      · cases hres
        rfl
      · exact raw_of_proceed hres
  unfold result? settle at h
  split at h
  · cases h
    exact hfinished _ ‹_›
  · cases h
    rfl
  · obtain ⟨millis, -, rfl⟩ := Option.map_eq_some_iff.1 h
    rfl

/-! ## Running tasks -/

/-- A task adds what it comes to under its index, and changes no other result. -/
theorem runTask_results {ps : List Placeholder} {index : Nat} {p : Placeholder}
    (hp : ps[index]? = some p) (st : Progress) :
    (r.runTask world ps st index).results
      = ((r.result? world st.calls p).map (index, ·)).toList ++ st.results := by
  unfold runTask result?
  rw [hp]
  simp only
  cases r.settle p (r.attempt world st.calls p).1 <;> rfl

/-- Every result is what the task of the placeholder with its index comes to, after some calls. -/
def Accounted (r : Resolver) (world : World) (ps : List Placeholder)
    (results : List (Nat × Resolution)) : Prop :=
  ∀ entry ∈ results, ∃ p calls, ps[entry.1]? = some p ∧ r.result? world calls p = some entry.2

/-- Running one more task leaves every result accounted for. -/
theorem accounted_runTask {ps : List Placeholder} {st : Progress}
    (h : Accounted r world ps st.results) (index : Nat) :
    Accounted r world ps (r.runTask world ps st index).results := by
  cases hp : ps[index]? with
  | none =>
    have hrun : r.runTask world ps st index = st := by rw [runTask, hp]
    rw [hrun]
    exact h
  | some p =>
    rw [runTask_results hp]
    intro entry hentry
    -- The result is the one that this task has added, or an earlier one.
    rcases List.mem_append.1 hentry with hnew | hold
    · obtain ⟨res, hres, rfl⟩ := Option.map_eq_some_iff.1 (Option.mem_toList.1 hnew)
      exact ⟨p, st.calls, hp, hres⟩
    · exact h entry hold

/-- Running tasks in any order leaves every result accounted for. -/
theorem accounted_foldl {ps : List Placeholder} (order : List Nat) {st : Progress}
    (h : Accounted r world ps st.results) :
    Accounted r world ps (order.foldl (r.runTask world ps) st).results := by
  induction order generalizing st with
  | nil => exact h
  | cons index order ih => exact ih (accounted_runTask h index)

/-- A result that is there stays there while tasks run. -/
theorem reported_runTask {ps : List Placeholder} {st : Progress} {i : Nat}
    (h : (st.results.lookup i).isSome) (index : Nat) :
    ((r.runTask world ps st index).results.lookup i).isSome := by
  cases hp : ps[index]? with
  | none =>
    have hrun : r.runTask world ps st index = st := by rw [runTask, hp]
    rw [hrun]
    exact h
  | some p =>
    rw [runTask_results hp, List.lookup_append, Option.isSome_or, h, Bool.or_true]

/-- Once the tasks have run, there is a result for every placeholder whose index is in the order,
if its task never hangs. -/
theorem reported_foldl {ps : List Placeholder} {order : List Nat} {st : Progress} {i : Nat}
    {p : Placeholder} (hp : ps[i]? = some p) (hsome : ∀ calls, (r.result? world calls p).isSome)
    (h : i ∈ order ∨ (st.results.lookup i).isSome) :
    ((order.foldl (r.runTask world ps) st).results.lookup i).isSome := by
  induction order generalizing st with
  | nil => exact h.resolve_left List.not_mem_nil
  | cons index order ih =>
    refine ih ?_
    rcases h with hmem | hold
    · rcases List.mem_cons.1 hmem with rfl | hmem
      · -- This task reports now, and its report stays.
        right
        obtain ⟨res, hres⟩ := Option.isSome_iff_exists.1 (hsome st.calls)
        rw [runTask_results hp, hres]
        simp
      · exact .inl hmem
    · exact .inr (reported_runTask hold index)

/-! ## The results of a compilation -/

/-- A compilation has one result for each placeholder, in its place: what the task of the
placeholder comes to after some calls of discovery. -/
theorem results_of_compileIn {order : List Nat} {calls : Calls} {text : Text} {c : Compilation}
    (h : (r.compileIn world order calls text).1 = some c) :
    c.template = r.prepare text ∧ c.results.length = c.template.placeholders.length ∧
      ∀ (i : Nat) p, c.template.placeholders[i]? = some p →
        ∃ before res, c.results[i]? = some res ∧
          r.result? world before p = some res := by
  unfold compileIn at h
  obtain ⟨results, hresults, rfl⟩ := Option.map_eq_some_iff.1 h
  have hmap := map_of_mapM hresults
  have haccounted : Accounted r world (r.prepare text).placeholders
      (order.foldl (r.runTask world (r.prepare text).placeholders) ⟨[], calls⟩).results :=
    accounted_foldl order fun entry hentry => by cases hentry
  refine ⟨rfl, ?_, ?_⟩
  · have hlength := congrArg List.length hmap
    rw [List.length_map, List.length_map, List.length_range] at hlength
    exact hlength.symm
  · intro i p hp
    have hi := (List.getElem?_eq_some_iff.1 hp).1
    -- The result in this place is the one that was found under the index of the place.
    have hlookup := congrArg (·[i]?) hmap
    simp only [List.getElem?_map, List.getElem?_range hi, Option.map_some] at hlookup
    obtain ⟨res, hres, heq⟩ := Option.map_eq_some_iff.1 hlookup.symm
    obtain ⟨p', before, hp', hresult⟩ := haccounted _ (mem_of_lookup heq.symm)
    obtain rfl : p = p' := Option.some.inj (hp.symm.trans hp')
    exact ⟨before, res, hres, hresult⟩

/-- There is a compilation if the order has every index and no task hangs. -/
theorem exists_compilation {order : List Nat} {text : Text}
    (horder : ∀ i < (r.prepare text).placeholders.length, i ∈ order)
    (hsome : ∀ p ∈ (r.prepare text).placeholders, ∀ before, (r.result? world before p).isSome)
    (calls : Calls) : ∃ c, (r.compileIn world order calls text).1 = some c := by
  have hreported : ∀ i ∈ List.range (r.prepare text).placeholders.length,
      ((order.foldl (r.runTask world (r.prepare text).placeholders)
        ⟨[], calls⟩).results.lookup i).isSome := by
    intro i hi
    have hi := List.mem_range.1 hi
    exact reported_foldl (List.getElem?_eq_getElem hi) (hsome _ (List.getElem_mem hi))
      (.inl (horder i hi))
  obtain ⟨results, hresults⟩ := exists_mapM hreported
  exact ⟨⟨r.prepare text, results⟩, by rw [compileIn, hresults]; rfl⟩

end Resolver

end Stencil
