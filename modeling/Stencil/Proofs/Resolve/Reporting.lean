import Mathlib.Data.List.Nodup
import Stencil.Proofs.Resolve.Fallback
import Stencil.Proofs.Resolve.Isolation
import Stencil.Proofs.Template.Filling
import Stencil.Proofs.Template.Occurrences

/-!
# What a compilation reports

`compile_consistent` says that the report of a compilation is `Consistent` with the text and in
itself, whatever providers do: there is one result for each distinct token, each with a value or
with an error that its value shows, the counts add up, and the result that is found under a token is
the one whose value stands in the document. If discovery always comes to an end, or there is a
timeout, then there is a compilation.

The counts are facts about any list of results. What connects the results with the template is that
the task of a placeholder reports its token and its type in every way in which it can end: what an
attempt can be is said once (`Attempted`), and so is what becomes of one that has no end
(`finished_or_stopped`).
-/

namespace Stencil

/-! ## Results by token -/

namespace Compilation

/-- The report of a compilation is one of the given text, and consistent in itself. -/
structure Consistent (c : Compilation) (text : Text) : Prop where
  /-- The template is the parsed text. -/
  template : c.template = Template.parse text
  /-- There is one result for each distinct token, in the order in which they first appear. -/
  appearances :
    Template.FirstAppearances (Template.tokens (Token.pieces text)) (c.results.map (·.raw))
  /-- The result in each place has the token and the type name of the placeholder in this place. -/
  identities : c.results.map (fun res => (res.raw, res.typeName))
    = c.template.placeholders.map fun p => (p.raw, p.typeName?)
  /-- A failed result has an error, and its value is the marker of the error; no other has one. -/
  errors : ∀ res ∈ c.results,
    (res.outcome.source = .failed ∧
      ∃ e, res.outcome.error? = some e ∧ res.outcome.value = e.marker) ∨
    (res.outcome.source ≠ .failed ∧ res.outcome.error? = none)
  /-- Every result is counted under one source. -/
  sources : c.summary.discovered + c.summary.defaulted + c.summary.fromEnvironment
    + c.summary.failed = c.summary.placeholders
  /-- The number of placeholders is that of the results. -/
  placeholders : c.summary.placeholders = c.results.length
  /-- The number of occurrences is that of the spans in the text. -/
  occurrences : c.summary.occurrences = (Token.scan text).length
  /-- The number of warnings is that of the warnings of all results. -/
  warnings : c.summary.warnings = (c.results.map (·.outcome.warnings.length)).sum
  /-- There are failures if and only if some are counted. -/
  failures : c.failures ≠ [] ↔ 0 < c.summary.failed
  /-- What is found under the token of a placeholder is the result in its place. -/
  found : ∀ (i : Nat) p, c.template.placeholders[i]? = some p →
    ∃ res, c.results[i]? = some res ∧ c.find? p.raw = some res
  /-- The document is the text with the value of what is found under a token in the place of each of
  its occurrences. -/
  spliced : Spliced c.template.placeholders (fun raw => (c.find? raw).map (·.outcome.value)) 0
    c.template.occurrences text c.output

variable (c : Compilation)

/-- An outcome is a failure with an error that is shown, or none. -/
theorem error_or_value (o : Outcome) :
    (o.source = .failed ∧ ∃ e, o.error? = some e ∧ o.value = e.marker) ∨
      (o.source ≠ .failed ∧ o.error? = none) := by
  cases o with
  | failed e => exact .inl ⟨rfl, e, rfl, rfl⟩
  | _ => exact .inr ⟨by simp [Outcome.source], rfl⟩

/-- Every result has one of the four sources. -/
theorem sum_count : c.count .discovered + c.count .byDefault + c.count .environment
    + c.count .failed = c.results.length := by
  simp only [count]
  induction c.results with
  | nil => rfl
  | cons res results ih =>
    simp only [List.countP_cons, List.length_cons]
    cases res.outcome.source <;> simp <;> omega

/-- As many results are failures as are counted under this source. -/
theorem length_failures : c.failures.length = c.count .failed := by
  rw [failures, count, List.countP_eq_length_filter]
  rfl

/-- What is found under the token of a result is this result, if no two have the same token. -/
theorem find?_of_mem (hnodup : (c.results.map (·.raw)).Nodup) {res : Resolution}
    (h : res ∈ c.results) : c.find? res.raw = some res := by
  cases hfind : c.find? res.raw with
  | none => simpa using List.find?_eq_none.1 hfind res h
  | some found =>
    have hraw : found.raw = res.raw := by simpa using List.find?_some hfind
    rw [List.inj_on_of_nodup_map hnodup (List.mem_of_find?_eq_some hfind) h hraw]

end Compilation

/-- Every call of discovery comes to an end. -/
def Provider.Answers (context : Context) (p : Provider) : Prop :=
  ∀ earlier key, p.discover context earlier key ≠ .pending

/-! ## Reports of tasks -/

namespace Resolver

variable {r : Resolver} {world : World}

/-- What an attempt at a placeholder can be. -/
inductive Attempted (r : Resolver) (world : World) (p : Placeholder) : Attempt → Prop
  /-- The body cannot be read. -/
  | malformed {e : ParseError} (h : p.body = .malformed e) :
    Attempted r world p (.finished ⟨p.raw, none, .failed (.malformed p.raw e), none, 0⟩)
  /-- There is no provider to ask. -/
  | unregistered {v : Variable} (h : p.body = .lookup v)
    (hget : r.registry.get? v.typeName = none) :
    Attempted r world p (.finished ⟨p.raw, some v.typeName,
      fallback world.env (p.request v) (.unregisteredType v.typeName v.key), none, 0⟩)
  /-- A provider is asked, which is that of files or a registered one. -/
  | asked {q : Request} {provider : Provider} {earlier : Nat} (hraw : q.raw = p.raw)
    (htype : p.typeName? = some q.typeName)
    (hget : ∀ v, p.body = .lookup v → r.registry.get? v.typeName = some provider)
    (hprovider : provider = FileTree.provider ∨ ∃ name, r.registry.get? name = some provider) :
    Attempted r world p (proceed provider (r.context world) q
      (provider.discover (r.context world) earlier q.key))

/-- An attempt at a placeholder is one of these. -/
theorem attempted (calls : Calls) (p : Placeholder) :
    r.Attempted world p (r.attempt world calls p).1 := by
  cases hbody : p.body with
  | malformed e =>
    rw [attempt, hbody]
    exact .malformed hbody
  | file path =>
    rw [attempt, hbody]
    refine .asked (q := ⟨p.raw, "file".toList, path, [], none⟩) rfl ?_ ?_ (.inl rfl)
    · rw [Placeholder.typeName?, hbody]
    · intro v h
      cases hbody.symm.trans h
  | lookup v =>
    cases hget : r.registry.get? v.typeName with
    | none =>
      rw [attempt_of_unregistered hbody hget]
      exact .unregistered hbody hget
    | some provider =>
      rw [attempt, hbody]
      simp only [hget]
      refine .asked (q := p.request v) rfl ?_ ?_ (.inr ⟨_, hget⟩)
      · rw [Placeholder.typeName?, hbody]
        rfl
      · rintro _ h
        cases hbody.symm.trans h
        exact hget

/-- The task of a placeholder comes to what the attempt ends in, or to a failure where the attempt
breaks down or does not end in time. -/
theorem finished_or_stopped {calls : Calls} {p : Placeholder} {res : Resolution}
    (h : r.result? world calls p = some res) :
    (r.attempt world calls p).1 = .finished res ∨
      ∃ e, res = ⟨p.raw, p.typeName?, .failed e, none, 0⟩ ∧
        ((r.attempt world calls p).1 = .panicked ∧ (∃ message, e = .aborted p.raw message) ∨
          (r.attempt world calls p).1 = .pending ∧ ∃ millis, e = .timedOut p.raw millis) := by
  unfold result? at h
  cases hattempt : (r.attempt world calls p).1 with
  | finished res' =>
    rw [hattempt, settle] at h
    cases h
    exact .inl rfl
  | panicked =>
    rw [hattempt, settle] at h
    cases h
    exact .inr ⟨_, rfl, .inl ⟨rfl, _, rfl⟩⟩
  | pending =>
    rw [hattempt, settle] at h
    obtain ⟨millis, -, rfl⟩ := Option.map_eq_some_iff.1 h
    exact .inr ⟨_, rfl, .inr ⟨rfl, _, rfl⟩⟩

/-- The result of a placeholder has the type name that its provider was asked under. -/
theorem typeName_of_proceed {provider : Provider} {context : Context} {q : Request}
    {d : Discovery} {res : Resolution} (h : proceed provider context q d = .finished res) :
    res.typeName = some q.typeName := by
  cases d <;> cases h <;> rfl

/-- Whatever the task of a placeholder comes to has its type name. -/
theorem typeName_of_result? {calls : Calls} {p : Placeholder} {res : Resolution}
    (h : r.result? world calls p = some res) : res.typeName = p.typeName? := by
  rcases finished_or_stopped h with hfinished | ⟨e, rfl, -⟩
  · have hattempted : r.Attempted world p _ := attempted calls p
    generalize (r.attempt world calls p).1 = a at hfinished hattempted
    cases hattempted with
    | malformed hbody =>
      cases hfinished
      simp only [Placeholder.typeName?, hbody]
    | unregistered hbody hget =>
      cases hfinished
      simp only [Placeholder.typeName?, hbody]
    | asked hraw htype hget hprovider => rw [typeName_of_proceed hfinished, htype]
  · rfl

/-- The results of a compilation have the tokens and the type names of its placeholders. -/
theorem identities_of_compileIn {order : List Nat} {calls : Calls} {text : Text} {c : Compilation}
    (h : (r.compileIn world order calls text).1 = some c) :
    c.results.map (fun res => (res.raw, res.typeName))
      = c.template.placeholders.map fun p => (p.raw, p.typeName?) := by
  obtain ⟨-, hlength, hresults⟩ := results_of_compileIn h
  refine List.ext_getElem? fun i => ?_
  rw [List.getElem?_map, List.getElem?_map]
  cases hp : c.template.placeholders[i]? with
  | none =>
    have hnone : c.results[i]? = none := by
      rw [List.getElem?_eq_none_iff, hlength]
      exact List.getElem?_eq_none_iff.1 hp
    rw [hnone]
    rfl
  | some p =>
    obtain ⟨before, res, hres, hresult⟩ := hresults i p hp
    rw [hres, Option.map_some, Option.map_some, raw_of_result? hresult,
      typeName_of_result? hresult]

/-- The results of a compilation are those of the distinct tokens of its text. -/
theorem raws_of_compileIn {order : List Nat} {calls : Calls} {text : Text} {c : Compilation}
    (h : (r.compileIn world order calls text).1 = some c) :
    c.results.map (·.raw)
      = (Template.tokens (Token.pieces (WordRule.applyAll r.words text))).eraseDups := by
  have hraws := congrArg (List.map Prod.fst) (identities_of_compileIn h)
  rw [List.map_map, List.map_map, (results_of_compileIn h).1] at hraws
  exact hraws.trans (Template.raws_parse _)

/-- The result of a placeholder is found under its token. -/
theorem find?_of_placeholder {order : List Nat} {calls : Calls} {text : Text} {c : Compilation}
    (h : (r.compileIn world order calls text).1 = some c) {i : Nat} {p : Placeholder}
    (hp : c.template.placeholders[i]? = some p) :
    ∃ before res, c.results[i]? = some res ∧ c.find? p.raw = some res ∧
      r.result? world before p = some res := by
  obtain ⟨before, res, hres, hresult⟩ := (results_of_compileIn h).2.2 i p hp
  have hnodup : (c.results.map (·.raw)).Nodup := by
    rw [raws_of_compileIn h]
    exact (Template.firstAppearances_eraseDups _).nodup
  refine ⟨before, res, hres, ?_, hresult⟩
  rw [← raw_of_result? hresult]
  exact c.find?_of_mem hnodup (List.mem_of_getElem? hres)

/-! ## Ends of tasks -/

/-- If there is no timeout, then all providers answer. -/
def Ends (r : Resolver) (world : World) : Prop :=
  r.timeout = none → ∀ name provider, r.registry.get? name = some provider →
    provider.Answers (r.context world)

/-- An attempt has no end only if a provider of the registry hangs. -/
theorem pending_of_attempt {calls : Calls} {p : Placeholder}
    (h : (r.attempt world calls p).1 = .pending) :
    ∃ name provider earlier key, r.registry.get? name = some provider ∧
      provider.discover (r.context world) earlier key = .pending := by
  have hattempted : r.Attempted world p _ := attempted calls p
  generalize (r.attempt world calls p).1 = a at h hattempted
  cases hattempted with
  | malformed hbody => cases h
  | unregistered hbody hget => cases h
  | asked hraw htype hget hprovider =>
    have hpending := eq_pending_of_proceed h
    rcases hprovider with rfl | ⟨name, hname⟩
    · exact absurd hpending (discover_file_ne_pending _ _ _)
    · exact ⟨name, _, _, _, hname, hpending⟩

/-- If discovery always comes to an end, or there is a timeout, then every task comes to a
result. -/
theorem Ends.isSome_result? (hends : r.Ends world) (calls : Calls) (p : Placeholder) :
    (r.result? world calls p).isSome := by
  unfold result?
  cases hattempt : (r.attempt world calls p).1 with
  | finished res => rfl
  | panicked => rfl
  | pending =>
    rw [settle, Option.isSome_map, Option.isSome_iff_ne_none]
    intro htimeout
    obtain ⟨name, provider, earlier, key, hget, hpending⟩ := pending_of_attempt hattempt
    exact hends htimeout name provider hget earlier key hpending

/-- There is then a compilation, whatever the order of the tasks. -/
theorem Ends.exists_compilation (hends : r.Ends world) {order : List Nat} {text : Text}
    (horder : order.Perm (List.range (r.prepare text).placeholders.length)) (calls : Calls) :
    ∃ c, (r.compileIn world order calls text).1 = some c :=
  Resolver.exists_compilation (fun _ hi => horder.mem_iff.2 (List.mem_range.2 hi))
    (fun p _ before => hends.isSome_result? before p) calls

/-! ## Consistency -/

variable (r world)

/-- Every compilation reports itself consistently, whatever providers do, whatever the order of the
tasks, and whatever calls of discovery come before. There is one for any order of the tasks if
discovery always comes to an end or there is a timeout. -/
theorem compile_consistent (order : List Nat) (calls : Calls) (text : Text) :
    (∀ c, (r.compileIn world order calls text).1 = some c →
      c.Consistent (WordRule.applyAll r.words text)) ∧
    (r.Ends world → order.Perm (List.range (r.prepare text).placeholders.length) →
      ∃ c, (r.compileIn world order calls text).1 = some c) := by
  refine ⟨fun c hc => ?_, fun hends horder => hends.exists_compilation horder calls⟩
  have htemplate : c.template = Template.parse (WordRule.applyAll r.words text) :=
    (results_of_compileIn hc).1
  refine
    { template := htemplate
      appearances := ?_
      identities := identities_of_compileIn hc
      errors := fun res _ => Compilation.error_or_value res.outcome
      sources := c.sum_count
      placeholders := rfl
      occurrences := ?_
      warnings := List.length_flatMap
      failures := ?_
      found := ?_
      spliced := ?_ }
  · rw [raws_of_compileIn hc]
    exact Template.firstAppearances_eraseDups _
  · rw [← Template.length_occurrences, ← htemplate]
    rfl
  · rw [← List.length_pos_iff, c.length_failures]
    rfl
  · intro i p hp
    obtain ⟨-, res, hres, hfind, -⟩ := find?_of_placeholder hc hp
    exact ⟨res, hres, hfind⟩
  · rw [Compilation.output, htemplate]
    exact Template.spliced_filled _ 0 _ fun raw hraw => List.mem_eraseDups.2 hraw

/-- A placeholder that stands in two places, with a provider that hangs, and one that has a value
are reported as one failure and one discovery for three occurrences, although the task of the second
runs first. -/
theorem compile_consistent_slow :
    let world : World := ⟨⟨.empty, []⟩, ⟨[]⟩, ⟨0, 0, 0⟩⟩
    let text := "{{$slow}} {{$letters}} {{$slow}}".toList
    (scripted .hang).Ends world ∧
      [1, 0].Perm (List.range ((scripted .hang).prepare text).placeholders.length) ∧
      ∃ c, ((scripted .hang).compileIn world [1, 0] [] text).1 = some c ∧ c.Consistent text ∧
        c.summary = ⟨2, 3, 1, 0, 0, 1, 0⟩ := by
  intro world text
  have hends : (scripted .hang).Ends world := (scripted_steady .hang world).no_hang
  have hlength : ((scripted .hang).prepare text).placeholders.length = 2 := by decide +kernel
  have horder : [1, 0].Perm (List.range ((scripted .hang).prepare text).placeholders.length) := by
    rw [hlength]
    decide
  obtain ⟨hconsistent, hexists⟩ := compile_consistent (scripted .hang) world [1, 0] [] text
  obtain ⟨c, hc⟩ := hexists hends horder
  have hsummary : ((scripted .hang).compileIn world [1, 0] [] text).1.map Compilation.summary
      = some ⟨2, 3, 1, 0, 0, 1, 0⟩ := by decide +kernel
  rw [hc] at hsummary
  exact ⟨hends, horder, c, hc, hconsistent c hc, Option.some.inj hsummary⟩

end Resolver

end Stencil
