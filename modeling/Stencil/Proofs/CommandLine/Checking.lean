import Stencil.CommandLine.Run
import Stencil.Proofs.CommandLine.Listing
import Stencil.Proofs.CommandLine.Overriding
import Stencil.Proofs.Resolve.Reporting

/-!
# What a check foretells

`check` lists the placeholders of a template without resolving them. `check_foretells_compile` says
that the list and a compile of the same text agree: the same tokens in the same order, the same
number of occurrences, an entry that is malformed exactly where the compile fails for this reason,
and a type that is registered exactly where the compile asks a provider. What providers do when they
are asked, and how long it takes, makes no difference. The check writes one value or one line for
each entry, which shows all of this.

The compile's side is `reports_of_result?`: the task of a placeholder ends in one of three ways, and
which one it is depends on the body and the registered names alone. Each error belongs to one of the
ways, so that the check, which tells them apart beforehand, knows which errors there can be.
-/

namespace Stencil

/-! ## Registered types -/

/-- What holds of all providers and of a new one holds of all once it is registered. -/
theorem Registry.forall_register {P : Provider → Prop} {r : Registry} {name : Text}
    {p : Provider} (h : ∀ entry ∈ r.entries, P entry.2) (hp : P p) :
    ∀ entry ∈ (r.register name p).entries, P entry.2 := by
  intro entry hentry
  rcases List.mem_append.1 hentry with hold | hnew
  · exact h entry (List.mem_filter.1 hold).1
  · rw [List.mem_singleton.1 hnew]
    exact hp

/-- Candidates or an error are an answer. -/
theorem Discovery.ofExcept_ne_pending (e : Except ProviderError (List Candidate)) :
    ofExcept e ≠ .pending := by
  cases e <;> simp [ofExcept]

/-! ## What a task ends in -/

/-- A placeholder with a type name is not malformed. -/
theorem Placeholder.isMalformed_of_typeName? {p : Placeholder} {typeName : Text}
    (h : p.typeName? = some typeName) : p.isMalformed = false := by
  unfold typeName? at h
  unfold isMalformed
  cases hbody : p.body with
  | malformed e => simp [hbody] at h
  | _ => rfl

/-- The error is one of a provider that has been asked. -/
def ResolveError.OfProvider : ResolveError → Prop
  | malformed .. => False
  | unregisteredType .. => False
  | _ => True

namespace Resolver

/-- The outcomes in which the task of a placeholder can end. -/
inductive Reports (r : Resolver) (world : World) (p : Placeholder) : Outcome → Prop
  /-- The body cannot be read. -/
  | malformed {e : ParseError} (h : p.body = .malformed e) :
    Reports r world p (.failed (.malformed p.raw e))
  /-- No provider can be asked. -/
  | unregistered {v : Variable} (h : p.body = .lookup v)
    (hget : r.registry.get? v.typeName = none) :
    Reports r world p (fallback world.env (p.request v) (.unregisteredType v.typeName v.key))
  /-- A provider is asked, and any error is one of it. -/
  | asked {o : Outcome} (hbody : p.isMalformed = false)
    (hget : ∀ v, p.body = .lookup v → r.registry.get? v.typeName ≠ none)
    (h : ∀ e, o = .failed e → e.OfProvider) : Reports r world p o

section Errors

variable {provider : Provider} {context : Context} {q : Request} {e : ResolveError}

/-- A fallback that fails does so with the error that it was given. -/
theorem eq_of_fallback_eq_failed {env : Environment} {error : ResolveError}
    (h : fallback env q error = .failed e) : e = error := by
  unfold fallback at h
  split at h
  · cases h
  · split at h <;> cases h
    rfl

/-- A fallback is not discovered. -/
theorem source_fallback_ne_discovered (env : Environment) (q : Request) (error : ResolveError) :
    (fallback env q error).source ≠ .discovered := by
  unfold fallback
  split
  · simp [Outcome.source]
  · split <;> simp [Outcome.source]

/-- An objection to a candidate is one of its provider. -/
theorem IsObjection.ofProvider (h : IsObjection e) : e.OfProvider := by
  rcases h with ⟨raw, reason, rfl⟩ | ⟨raw, rfl⟩ | ⟨raw, message, rfl⟩ <;> exact trivial

/-- A filter that stops the chain is one of the provider. -/
theorem Stops.ofProvider {cs : List Candidate} {call : FilterCall}
    (h : Stops provider q cs call e) : e.OfProvider := by
  cases h <;> exact trivial

/-- What is chosen of the candidates of a provider fails with an error of the provider only. -/
theorem ofProvider_of_choose {discoveryError : Option Text} {found : List Candidate}
    (h : choose provider context q discoveryError found = .failed e) : e.OfProvider := by
  cases hleft : provider.left? q.filters found with
  | none =>
    obtain ⟨-, call, -, cs, error, -, -, hstops, hchoose⟩ := choose_of_not_left? hleft
    rw [hchoose] at h
    cases h
    exact hstops.ofProvider
  | some cs =>
    cases cs with
    | nil =>
      rw [choose_of_left?_nil hleft] at h
      rw [eq_of_fallback_eq_failed h]
      exact trivial
    | cons c rest =>
      rw [choose_of_left?_cons hleft] at h
      by_cases hpasses : Passes provider context q.key c
      · obtain ⟨value, warnings, hselect⟩ := select_of_passes hpasses
        cases h.symm.trans hselect
      · obtain ⟨error, hselect, hobjection⟩ := select_of_not_passes hpasses
        cases h.symm.trans hselect
        exact hobjection.ofProvider

/-- Where a call of discovery leads to a failure, its error is one of the provider. -/
theorem ofProvider_of_proceed {d : Discovery} {res : Resolution}
    (h : proceed provider context q d = .finished res) (hres : res.outcome = .failed e) :
    e.OfProvider := by
  cases d with
  | found cs =>
    cases h
    exact ofProvider_of_choose hres
  | failed reason =>
    cases h
    exact ofProvider_of_choose hres
  | panicked => cases h
  | pending => cases h

end Errors

variable {r : Resolver} {world : World}

/-- The task of a placeholder ends in one of the outcomes that it can end in, whatever providers do.
-/
theorem reports_of_result? {calls : Calls} {p : Placeholder} {res : Resolution}
    (h : r.result? world calls p = some res) : r.Reports world p res.outcome := by
  have hattempted : r.Attempted world p _ := attempted calls p
  rcases finished_or_stopped h with hfinished | ⟨e, rfl, hstopped⟩
  · generalize (r.attempt world calls p).1 = a at hfinished hattempted
    cases hattempted with
    | malformed hbody =>
      cases hfinished
      exact .malformed hbody
    | unregistered hbody hget =>
      cases hfinished
      exact .unregistered hbody hget
    | asked hraw htype hget hprovider =>
      exact .asked (Placeholder.isMalformed_of_typeName? htype) (fun v hv => by simp [hget v hv])
        fun e => ofProvider_of_proceed hfinished
  · -- Only a provider that is asked can do without an answer.
    have he : e.OfProvider := by
      rcases hstopped with ⟨-, message, rfl⟩ | ⟨-, millis, rfl⟩ <;> exact trivial
    generalize (r.attempt world calls p).1 = a at hstopped hattempted
    cases hattempted with
    | malformed hbody => rcases hstopped with ⟨h, -⟩ | ⟨h, -⟩ <;> cases h
    | unregistered hbody hget => rcases hstopped with ⟨h, -⟩ | ⟨h, -⟩ <;> cases h
    | asked hraw htype hget hprovider =>
      have hbody := Placeholder.isMalformed_of_typeName? htype
      refine .asked hbody (fun v hv => by simp [hget v hv]) ?_
      rintro _ ⟨⟩
      exact he

end Resolver

namespace CommandLine

/-! ## Resolvers that are set up -/

/-- The resolver has the types that the configuration sets up. -/
theorem registry_of_resolver {c : Config} {arguments : List Text} {r : Resolver}
    (h : resolver c arguments = .ok r) : r.registry = registry c := by
  rcases resolver_cases c arguments with ⟨e, -, hr⟩ | ⟨pairs, -, ⟨-, hr⟩ | ⟨words, -, hr⟩⟩
  · cases h.symm.trans hr
  · cases h.symm.trans hr
  · cases h.symm.trans hr
    rfl

/-- The types that a configuration sets up always answer. -/
theorem ends_of_resolver {c : Config} {arguments : List Text} {r : Resolver}
    (h : resolver c arguments = .ok r) (world : World) : r.Ends world := by
  intro _ name provider hget
  have hall : ∀ entry ∈ (registry c).entries, entry.2.Answers (r.context world) := by
    refine Registry.forall_register (Registry.forall_register (Registry.forall_register
      (Registry.forall_register ?_ ?_) ?_) ?_) ?_
    · simp [Registry.empty]
    · exact Resolver.discover_file_ne_pending _
    · exact fun _ _ h => by cases h
    · exact fun _ _ => Discovery.ofExcept_ne_pending _
    · exact fun _ _ h => by cases h
  rw [registry_of_resolver h] at hget
  exact hall (name, provider) (mem_of_lookup hget)

/-! ## Entries -/

/-- An entry is right about what the placeholder has come to. -/
structure CheckEntry.Foretells (e : CheckEntry) (res : Resolution) : Prop where
  /-- It is malformed exactly if this is the reason for the failure. -/
  malformed : e.placeholder.isMalformed = true ↔
    ∃ raw reason, res.outcome = .failed (.malformed raw reason)
  /-- The token and the reason are then the same. -/
  reason : ∀ raw reason, res.outcome = .failed (.malformed raw reason) →
    raw = e.placeholder.raw ∧ e.placeholder.body = .malformed reason
  /-- Nothing is discovered for a type that is not registered. -/
  unregistered : e.registered = false → res.outcome.source ≠ .discovered
  /-- No registered type is missed. -/
  registered : e.registered = true →
    ∀ typeName key, res.outcome ≠ .failed (.unregisteredType typeName key)

/-- The entries of a check are right about a compilation. -/
structure AllForetell (entries : List CheckEntry) (c : Compilation) : Prop where
  /-- They have the tokens of the results, in the same order. -/
  raws : entries.map (·.placeholder.raw) = c.results.map (·.raw)
  /-- Each is right about the result in its place, which is the one that is found by its token. -/
  foretells : ∀ (i : Nat) e, entries[i]? = some e →
    ∃ res, c.results[i]? = some res ∧ c.find? e.placeholder.raw = some res ∧ e.Foretells res
  /-- Their numbers of occurrences add up to the number of all. -/
  occurrences : (entries.map (·.occurrences)).sum = c.summary.occurrences

/-- Entries are about the placeholders of the template. -/
theorem placeholders_checkEntries (registry : Registry) (t : Template) :
    (checkEntries registry t).map (·.placeholder) = t.placeholders := by
  rw [checkEntries, List.map_map]
  exact List.zipIdx_map_fst 0 t.placeholders

/-- The numbers of occurrences are those of the indices in order. -/
theorem occurrences_checkEntries (registry : Registry) (t : Template) :
    (checkEntries registry t).map (·.occurrences)
      = (List.range t.placeholders.length).map fun i => t.occurrences.countP (·.index = i) := by
  rw [checkEntries, List.map_map, List.range_eq_range', ← List.zipIdx_map_snd, List.map_map]
  rfl

/-- An entry is about the placeholder in its place, and knows whether a type is missing. -/
theorem entry_checkEntries {registry : Registry} {t : Template} {i : Nat} {e : CheckEntry}
    (h : (checkEntries registry t)[i]? = some e) :
    t.placeholders[i]? = some e.placeholder ∧
      (e.registered = false ↔
        ∃ v, e.placeholder.body = .lookup v ∧ registry.contains v.typeName = false) := by
  rw [checkEntries, List.getElem?_map, List.getElem?_zipIdx, Option.map_map] at h
  obtain ⟨p, hp, rfl⟩ := Option.map_eq_some_iff.1 h
  refine ⟨hp, ?_⟩
  cases hbody : p.body <;> simp [hbody]

/-- An entry that knows whether its type is missing is right about whatever the task of its
placeholder can end in. -/
theorem foretells_of_reports {r : Resolver} {world : World} {e : CheckEntry} {res : Resolution}
    (hregistered : e.registered = false ↔
      ∃ v, e.placeholder.body = .lookup v ∧ r.registry.contains v.typeName = false)
    (h : r.Reports world e.placeholder res.outcome) : e.Foretells res := by
  generalize ho : res.outcome = o at h
  cases h with
  | @malformed reason hbody =>
    refine ⟨?_, ?_, ?_, ?_⟩
    · rw [ho, Placeholder.isMalformed, hbody]
      exact iff_of_true rfl ⟨_, _, rfl⟩
    · rw [ho]
      rintro _ _ ⟨⟩
      exact ⟨rfl, hbody⟩
    · rw [ho]
      exact fun _ h => by cases h
    · rw [ho]
      exact fun _ _ _ h => by cases h
  | @unregistered v hbody hget =>
    have hmalformed : ¬ ∃ raw reason, res.outcome = .failed (.malformed raw reason) := by
      rintro ⟨raw, reason, h⟩
      cases Resolver.eq_of_fallback_eq_failed (ho.symm.trans h)
    refine ⟨?_, ?_, ?_, ?_⟩
    · rw [Placeholder.isMalformed, hbody]
      exact iff_of_false (by simp) hmalformed
    · exact fun raw reason h => absurd ⟨raw, reason, h⟩ hmalformed
    · rw [ho]
      exact fun _ => Resolver.source_fallback_ne_discovered _ _ _
    · intro htrue
      have hfalse := hregistered.2 ⟨v, hbody, by rw [Registry.contains, hget]; rfl⟩
      cases htrue.symm.trans hfalse
  | asked hbody hget herror =>
    have hmalformed : ¬ ∃ raw reason, res.outcome = .failed (.malformed raw reason) := by
      rintro ⟨raw, reason, h⟩
      exact herror _ (ho.symm.trans h)
    refine ⟨?_, ?_, ?_, ?_⟩
    · rw [hbody]
      exact iff_of_false (by simp) hmalformed
    · exact fun raw reason h => absurd ⟨raw, reason, h⟩ hmalformed
    · intro hfalse
      obtain ⟨v, hv, hcontains⟩ := hregistered.1 hfalse
      rw [Registry.contains, Option.isSome_eq_false_iff, Option.isNone_iff_eq_none] at hcontains
      exact absurd hcontains (hget v hv)
    · exact fun _ typeName key h => herror _ (ho.symm.trans h)

/-! ## Checks and compiles -/

section Compiles

variable {r r' : Resolver} {world : World} {order : List Nat} {calls : Calls} {text : Text}
  {c : Compilation}

/-- The entries of a template are right about every compilation of its text, as long as the same
words are replaced and the same types are registered. -/
theorem foretell_of_compileIn (hwords : r'.words = r.words)
    (hcontains : ∀ name, r'.registry.contains name = r.registry.contains name)
    (hc : (r'.compileIn world order calls text).1 = some c) :
    AllForetell (checkEntries r.registry (r.prepare text)) c := by
  have htemplate : c.template = r.prepare text := by
    rw [(Resolver.results_of_compileIn hc).1, Resolver.prepare, Resolver.prepare, hwords]
  have hplaceholders := placeholders_checkEntries r.registry (r.prepare text)
  refine ⟨?_, ?_, ?_⟩
  · calc (checkEntries r.registry (r.prepare text)).map (·.placeholder.raw)
        = ((checkEntries r.registry (r.prepare text)).map (·.placeholder)).map (·.raw) := by
          rw [List.map_map]
          rfl
      _ = c.template.placeholders.map (·.raw) := by rw [hplaceholders, htemplate]
      _ = c.results.map (·.raw) := by
          have hraws := congrArg (List.map Prod.fst) (Resolver.identities_of_compileIn hc)
          rw [List.map_map, List.map_map] at hraws
          exact hraws.symm
  · intro i e he
    obtain ⟨hp, hregistered⟩ := entry_checkEntries he
    rw [← htemplate] at hp
    obtain ⟨before, res, hres, hfind, hresult⟩ := Resolver.find?_of_placeholder hc hp
    simp only [← hcontains] at hregistered
    exact ⟨res, hres, hfind,
      foretells_of_reports hregistered (Resolver.reports_of_result? hresult)⟩
  · rw [occurrences_checkEntries, Resolver.prepare, Template.sum_occurrences]
    exact congrArg (·.occurrences.length) htemplate.symm

/-- If the entries are right, one is malformed exactly if this is the reason for a failure. -/
theorem AllForetell.malformed_iff {entries : List CheckEntry} (h : AllForetell entries c) :
    (∃ e ∈ entries, e.placeholder.isMalformed = true) ↔
      ∃ res ∈ c.results, ∃ raw reason, res.outcome = .failed (.malformed raw reason) := by
  constructor
  · rintro ⟨e, he, hmalformed⟩
    obtain ⟨i, hi⟩ := List.mem_iff_getElem?.1 he
    obtain ⟨res, hres, -, hforetells⟩ := h.foretells i e hi
    exact ⟨res, List.mem_of_getElem? hres, hforetells.malformed.1 hmalformed⟩
  · rintro ⟨res, hres, hmalformed⟩
    obtain ⟨i, hi, hget⟩ := List.mem_iff_getElem.1 hres
    have hlength : entries.length = c.results.length := by
      simpa using congrArg List.length h.raws
    have hentry := List.getElem?_eq_getElem (hlength.symm ▸ hi)
    obtain ⟨res', hres', -, hforetells⟩ := h.foretells i _ hentry
    rw [List.getElem?_eq_getElem hi, hget] at hres'
    obtain rfl := Option.some.inj hres'
    exact ⟨_, List.mem_of_getElem? hentry, hforetells.malformed.2 hmalformed⟩

end Compiles

section Checks

variable {template : Path} {arguments : List Text} {config : Config} {world : World} {text : Text}
  {r : Resolver} (htext : world.files.readText template = .ok text)
  (hr : resolver config arguments = .ok r) (json : Bool)

include htext hr

/-- A check writes its entries, as values or in lines. -/
theorem out_check :
    (check template arguments json config world).out =
      let entries := checkEntries r.registry (r.prepare text)
      if json then Json.pretty (.list (entries.map CheckEntry.value)) ++ ['\n']
      else unlines (checkLines template entries) := by
  simp only [check, htext, hr]

/-- A check fails exactly if an entry is malformed. -/
theorem errors_check :
    (check template arguments json config world).errors ≠ [] ↔
      ∃ e ∈ checkEntries r.registry (r.prepare text), e.placeholder.isMalformed = true := by
  rw [← List.countP_pos_iff (p := fun e : CheckEntry => e.placeholder.isMalformed)]
  simp only [check, htext, hr]
  split
  case isTrue hnone => exact iff_of_false (fun h => h rfl) (by omega)
  case isFalse hsome => exact iff_of_true (by simp) (by omega)

end Checks

/-- If a configuration and arguments make up a resolver, a check of a text lists its entries in
order, each as a value or a line that shows what it is, and compiles of the text with this resolver
end. The entries are right about every compilation with this resolver, or one that replaces the same
words and has the same types, whatever its providers do, and the check fails exactly if a
compilation has a failure for the reason that a token is malformed. -/
theorem check_foretells_compile {template : Path} {arguments : List Text} {config : Config}
    {world : World} {text : Text} {r : Resolver}
    (htext : world.files.readText template = .ok text)
    (hr : resolver config arguments = .ok r) (json : Bool) :
    let entries := checkEntries r.registry (r.prepare text)
    let effect := check template arguments json config world
    (∃ values lines,
      List.Forall₂ CheckEntry.ShownBy entries values ∧
      List.Forall₂ CheckEntry.ToldBy entries lines ∧
      effect.out =
        if json then Json.pretty (.list values) ++ ['\n']
        else
          ((Text.ofNat entries.length ++ " placeholder(s) in ".toList ++ template.text)
            :: lines).flatMap (· ++ ['\n'])) ∧
    (∀ world' order calls, order.Perm (List.range (r.prepare text).placeholders.length) →
      ∃ c, (r.compileIn world' order calls text).1 = some c) ∧
    ∀ r' : Resolver, r'.words = r.words →
      (∀ name, r'.registry.contains name = r.registry.contains name) →
      ∀ world' order calls c, (r'.compileIn world' order calls text).1 = some c →
        AllForetell entries c ∧
        (effect.errors ≠ [] ↔
          ∃ res ∈ c.results, ∃ raw reason, res.outcome = .failed (.malformed raw reason)) := by
  intro entries effect
  refine ⟨⟨entries.map CheckEntry.value, entries.map CheckEntry.line, ?_, ?_, ?_⟩, ?_, ?_⟩
  · exact List.forall₂_map_right_iff.2 (List.forall₂_same.2 fun e _ => e.shownBy_value)
  · exact List.forall₂_map_right_iff.2 (List.forall₂_same.2 fun e _ => e.toldBy_line)
  · exact out_check htext hr json
  · exact fun world' order calls horder => (ends_of_resolver hr world').exists_compilation horder
      calls
  · intro r' hwords hcontains world' order calls c hc
    have hforetell := foretell_of_compileIn hwords hcontains hc
    exact ⟨hforetell, (errors_check htext hr json).trans hforetell.malformed_iff⟩

/-- A template with a token without a body, a type that is not registered, in two places, and a
registered one. -/
def mixedTemplate : Text :=
  "\x7b\x7b$\x7d\x7d \x7b\x7b$who\x7d\x7d \x7b\x7b$config.a\x7d\x7d \x7b\x7b$who\x7d\x7d".toList

/-- The lines that a check of `mixedTemplate` writes for a reader. -/
def mixedLines : List String :=
  ["3 placeholder(s) in t.md",
    "  ✗ \x7b\x7b$\x7d\x7d x1 (error: missing variable identifier)",
    "  ✓ \x7b\x7b$who\x7d\x7d x2 (unregistered type (default/environment fallback only))",
    "  ✓ \x7b\x7b$config.a\x7d\x7d x1 (variable)"]

/-- The lines that a check of `mixedTemplate` writes for a program. -/
def mixedValues : List String :=
  ["[",
    "  \x7b",
    "    \"error\": \"missing variable identifier\",",
    "    \"kind\": \"malformed\",",
    "    \"occurrences\": 1,",
    "    \"raw\": \"\x7b\x7b$\x7d\x7d\"",
    "  \x7d,",
    "  \x7b",
    "    \"default\": null,",
    "    \"filters\": [],",
    "    \"key\": \"who\",",
    "    \"kind\": \"variable\",",
    "    \"occurrences\": 2,",
    "    \"raw\": \"\x7b\x7b$who\x7d\x7d\",",
    "    \"registered\": false,",
    "    \"type\": \"who\"",
    "  \x7d,",
    "  \x7b",
    "    \"default\": null,",
    "    \"filters\": [],",
    "    \"key\": \"a\",",
    "    \"kind\": \"variable\",",
    "    \"occurrences\": 1,",
    "    \"raw\": \"\x7b\x7b$config.a\x7d\x7d\",",
    "    \"registered\": true,",
    "    \"type\": \"config\"",
    "  \x7d",
    "]"]

/-- The check of a template that has all kinds of tokens fails, as the compile has a failure for the
reason that one is malformed. It lists the three tokens in either form. -/
theorem check_foretells_compile_mixed :
    let files : FileSystem := ⟨.directory [("t.md".toList, .file (Utf8.encode mixedTemplate))], []⟩
    let world : World := ⟨files, ⟨[]⟩, ⟨0, 0, 0⟩⟩
    let config : Config := { values := [(['a'], ['b'])] }
    let r : Resolver := ⟨registry config, [], ⟨['.']⟩, none⟩
    let entries := checkEntries r.registry (r.prepare mixedTemplate)
    world.files.readText ⟨"t.md".toList⟩ = .ok mixedTemplate ∧
      resolver config [] = .ok r ∧
      ∃ c, (r.compile world [] mixedTemplate).1 = some c ∧ AllForetell entries c ∧
        c.summary = ⟨3, 4, 1, 0, 0, 2, 0⟩ ∧
        entries.map (fun e => (e.placeholder.isMalformed, e.occurrences, e.registered))
          = [(true, 1, true), (false, 2, false), (false, 1, true)] ∧
        (check ⟨"t.md".toList⟩ [] false config world).errors ≠ [] ∧
        (check ⟨"t.md".toList⟩ [] false config world).out
          = mixedLines.flatMap (·.toList ++ ['\n']) ∧
        (check ⟨"t.md".toList⟩ [] true config world).out
          = mixedValues.flatMap (·.toList ++ ['\n']) := by
  intro files world config r entries
  have htext : world.files.readText ⟨"t.md".toList⟩ = .ok mixedTemplate := by cbv
  have hr : resolver config [] = .ok r := rfl
  have hlength : (r.prepare mixedTemplate).placeholders.length = 3 := by decide +kernel
  obtain ⟨-, hexists, hagree⟩ := check_foretells_compile htext hr false
  obtain ⟨c, hc⟩ := hexists world (List.range 3) [] (by rw [hlength])
  obtain ⟨hforetell, herrors⟩ := hagree r rfl (fun _ => rfl) world (List.range 3) [] c hc
  have hsummary : (r.compileIn world (List.range 3) [] mixedTemplate).1.map Compilation.summary
      = some ⟨3, 4, 1, 0, 0, 2, 0⟩ := by decide +kernel
  have hentries : entries.map (fun e => (e.placeholder.isMalformed, e.occurrences, e.registered))
      = [(true, 1, true), (false, 2, false), (false, 1, true)] := by decide +kernel
  rw [hc] at hsummary
  refine ⟨htext, hr, c, ?_, hforetell, Option.some.inj hsummary, hentries, herrors.2 ?_, ?_,
    ?_⟩
  · rw [Resolver.compile, hlength]
    exact hc
  · have hmem : (true, 1, true)
        ∈ entries.map fun e => (e.placeholder.isMalformed, e.occurrences, e.registered) := by
      rw [hentries]
      exact List.mem_cons_self
    obtain ⟨e, he, heq⟩ := List.mem_map.1 hmem
    exact hforetell.malformed_iff.1 ⟨e, he, congrArg Prod.fst heq⟩
  · rw [out_check htext hr]
    decide +kernel
  · rw [out_check htext hr]
    decide +kernel

end CommandLine

end Stencil
