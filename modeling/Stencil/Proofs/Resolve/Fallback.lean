import Stencil.Proofs.Resolve.Environment
import Stencil.Provider.Scripted
import Stencil.Resolve.Resolver

/-!
# When the fallbacks are used

A variable falls back on its default literal, the environment or an error exactly if nothing is left
to select: its type is not registered, or its filters are all known, succeed, and leave nothing.
`resolve_decided` says so of every variable, together with what it falls back on and what becomes of
it otherwise: the first filter that is unknown or fails decides over all else, and if a candidate is
left, the first one does. The environment is asked for the key as it is; with an equals sign in it,
the key may run into the value of another variable (`not_named_exactly`).

The candidates that are left are given by a plain fold over the filter calls (`Provider.left?`), and
`choose` is taken apart by what this fold comes to.
-/

namespace Stencil

/-! ## Filter chains -/

/-- What a filter call makes of candidates; nothing if its filter is unknown or fails. -/
def FilterCall.run? (p : Provider) (cs : List Candidate) (call : FilterCall) :
    Option (List Candidate) :=
  (p.filter? call.name).bind fun filter => (filter cs call.arg).toOption

/-- The candidates that filter calls leave, folded from left to right over the discovered ones. -/
def Provider.left? (p : Provider) (calls : List FilterCall) (found : List Candidate) :
    Option (List Candidate) :=
  calls.foldlM (FilterCall.run? p) found

/-- What discovery offers to the filters: nothing if it fails. A call without an end offers no
list. -/
def Discovery.candidates? : Discovery → Option (List Candidate)
  | found cs => some cs
  | failed _ => some []
  | panicked => none
  | pending => none

/-- The request that a placeholder of a variable makes. -/
def Placeholder.request (p : Placeholder) (v : Variable) : Request :=
  ⟨p.raw, v.typeName, v.key, v.filters, v.fallback⟩

namespace Resolver

/-- A filter call goes wrong on candidates, and the error names its filter. -/
inductive Stops (p : Provider) (q : Request) (cs : List Candidate) (call : FilterCall) :
    ResolveError → Prop
  | unknown (h : p.filter? call.name = none) :
    Stops p q cs call (.unknownFilter q.raw q.typeName call.name)
  | failed {filter : Filter} {e : ProviderError} (h : p.filter? call.name = some filter)
    (he : filter cs call.arg = .error e) :
    Stops p q cs call (.filterFailed q.raw call.name e.message)

variable {p : Provider} {q : Request}

/-- A call either goes on with what its filter leaves, or it stops the chain. -/
theorem applyFilters_cons (call : FilterCall) (rest : List FilterCall) (cs : List Candidate) :
    (∃ cs', call.run? p cs = some cs' ∧
      applyFilters p q (call :: rest) cs = applyFilters p q rest cs') ∨
    (call.run? p cs = none ∧
      ∃ error, Stops p q cs call error ∧ applyFilters p q (call :: rest) cs = .error error) := by
  rw [applyFilters, FilterCall.run?]
  cases hfilter : p.filter? call.name with
  | none => exact .inr ⟨rfl, _, .unknown hfilter, rfl⟩
  | some filter =>
    cases happly : filter cs call.arg with
    | ok cs' => exact .inl ⟨cs', by simp [happly, Except.toOption], by simp [happly]⟩
    | error e =>
      exact .inr ⟨by simp [happly, Except.toOption], _, .failed hfilter happly, by simp [happly]⟩

/-- Filters that leave something are all applied. -/
theorem applyFilters_of_left? {calls : List FilterCall} {found cs : List Candidate}
    (h : p.left? calls found = some cs) : applyFilters p q calls found = .ok cs := by
  induction calls generalizing found with
  | nil =>
    cases h
    rfl
  | cons call rest ih =>
    rw [Provider.left?, List.foldlM_cons, Option.bind_eq_bind, Option.bind_eq_some_iff] at h
    obtain ⟨cs', hcs', hrest⟩ := h
    rcases applyFilters_cons (p := p) (q := q) call rest found with ⟨next, hnext, heq⟩ | ⟨hnone, -⟩
    · obtain rfl : next = cs' := Option.some.inj (hnext.symm.trans hcs')
      rw [heq, ih hrest]
    · cases hnone.symm.trans hcs'

/-- Filters that leave no list go wrong at a first call: those before it leave candidates, and with
these it stops the chain. -/
theorem applyFilters_of_not_left? {calls : List FilterCall} {found : List Candidate}
    (h : p.left? calls found = none) :
    ∃ before call after cs error, calls = before ++ call :: after ∧
      p.left? before found = some cs ∧ Stops p q cs call error ∧
      applyFilters p q calls found = .error error := by
  induction calls generalizing found with
  | nil => cases h
  | cons call rest ih =>
    rcases applyFilters_cons (p := p) (q := q) call rest found with
      ⟨next, hnext, heq⟩ | ⟨-, error, hstops, herror⟩
    · -- The chain goes wrong behind this call.
      rw [Provider.left?, List.foldlM_cons, hnext] at h
      obtain ⟨before, call', after, cs, error, rfl, hbefore, hstops, herror⟩ := ih h
      refine ⟨call :: before, call', after, cs, error, rfl, ?_, hstops, heq.trans herror⟩
      rw [Provider.left?, List.foldlM_cons, hnext]
      exact hbefore
    · exact ⟨[], call, rest, found, error, rfl, rfl, hstops, herror⟩

/-! ## Choosing -/

section Choose

variable {context : Context} {discoveryError : Option Text} {found : List Candidate}

/-- If nothing is left, there is the fallback. -/
theorem choose_of_left?_nil (h : p.left? q.filters found = some []) :
    choose p context q discoveryError found
      = fallback context.world.env q (.notFound q.typeName q.key (attempts discoveryError)) := by
  rw [choose, applyFilters_of_left? h]

/-- If candidates are left, the first one is selected. -/
theorem choose_of_left?_cons {c : Candidate} {rest : List Candidate}
    (h : p.left? q.filters found = some (c :: rest)) :
    choose p context q discoveryError found = select p context q c := by
  rw [choose, applyFilters_of_left? h]

/-- If a filter is unknown or fails, the first one that does is the reason for the failure. -/
theorem choose_of_not_left? (h : p.left? q.filters found = none) :
    ∃ before call after cs error, q.filters = before ++ call :: after ∧
      p.left? before found = some cs ∧ Stops p q cs call error ∧
      choose p context q discoveryError found = .failed error := by
  obtain ⟨before, call, after, cs, error, hcalls, hbefore, hstops, herror⟩ :=
    applyFilters_of_not_left? (q := q) h
  exact ⟨before, call, after, cs, error, hcalls, hbefore, hstops, by rw [choose, herror]⟩

end Choose

/-! ## Selecting -/

/-- A candidate passes: it is accepted and rendered, and if what has been rendered is the path of a
file to put in, that file can be loaded. -/
def Passes (p : Provider) (context : Context) (key : Text) (c : Candidate) : Prop :=
  p.validate context c key = .accepted ∧
    ∃ s, p.render c = .ok s ∧
      (p.embeds = true → ∃ file, Embedded.load context.world.files ⟨s⟩ = .ok file)

/-- The error is about a candidate: it is not accepted, or it cannot be rendered or loaded. -/
def IsObjection (e : ResolveError) : Prop :=
  (∃ raw reason, e = .invalid raw reason) ∨ (∃ raw, e = .rejected raw) ∨
    ∃ raw message, e = .renderFailed raw message

/-- A candidate that passes is discovered. -/
theorem select_of_passes {context : Context} {c : Candidate} (h : Passes p context q.key c) :
    ∃ value warnings, select p context q c = .discovered value warnings := by
  obtain ⟨haccepted, s, hs, hload⟩ := h
  rw [select, haccepted, hs]
  by_cases hembeds : p.embeds = true
  · obtain ⟨file, hfile⟩ := hload hembeds
    exact ⟨file.content, file.warnings, by simp [hembeds, hfile]⟩
  · exact ⟨s, [], by simp [hembeds]⟩

/-- A candidate that does not pass is a failure. -/
theorem select_of_not_passes {context : Context} {c : Candidate} (h : ¬ Passes p context q.key c) :
    ∃ e, select p context q c = .failed e ∧ IsObjection e := by
  rw [select]
  cases hvalidate : p.validate context c q.key with
  | message reason => exact ⟨_, rfl, .inl ⟨_, _, rfl⟩⟩
  | rejected => exact ⟨_, rfl, .inr (.inl ⟨_, rfl⟩)⟩
  | accepted =>
    cases hrender : p.render c with
    | error e => exact ⟨_, rfl, .inr (.inr ⟨_, _, rfl⟩)⟩
    | ok s =>
      -- What has been rendered can only be the path of a file that cannot be loaded.
      have hembeds : p.embeds = true := by
        by_contra hembeds
        exact h ⟨hvalidate, s, hrender, fun hyes => absurd hyes hembeds⟩
      cases hload : Embedded.load context.world.files ⟨s⟩ with
      | ok file => exact absurd ⟨hvalidate, s, hrender, fun _ => ⟨file, hload⟩⟩ h
      | error e =>
        exact ⟨.renderFailed q.raw e.message, by simp [hembeds, hload], .inr (.inr ⟨_, _, rfl⟩)⟩

end Resolver

/-! ## Falling back -/

/-- An outcome is a fallback: the default literal, the environment, or the error that there is
nothing. -/
def Outcome.IsFallback (o : Outcome) : Prop :=
  o.source = .byDefault ∨ o.source = .environment ∨
    (∃ typeName key attempts, o.error? = some (.notFound typeName key attempts)) ∨
    ∃ typeName key, o.error? = some (.unregisteredType typeName key)

namespace Resolver

/-- What has been selected is no fallback. -/
theorem not_isFallback_select (p : Provider) (context : Context) (q : Request) (c : Candidate) :
    ¬ (select p context q c).IsFallback := by
  by_cases h : Passes p context q.key c
  · obtain ⟨value, warnings, heq⟩ := select_of_passes h
    rw [heq]
    simp [Outcome.IsFallback, Outcome.source, Outcome.error?]
  · obtain ⟨e, heq, ⟨_, _, rfl⟩ | ⟨_, rfl⟩ | ⟨_, _, rfl⟩⟩ := select_of_not_passes h
    all_goals
      rw [heq]
      simp [Outcome.IsFallback, Outcome.source, Outcome.error?]

/-- The error of a filter call is no fallback. -/
theorem Stops.not_isFallback {p : Provider} {q : Request} {cs : List Candidate} {call : FilterCall}
    {error : ResolveError} (h : Stops p q cs call error) : ¬ (Outcome.failed error).IsFallback := by
  cases h <;> simp [Outcome.IsFallback, Outcome.source, Outcome.error?]

variable {env : Environment} {q : Request} {error : ResolveError}

/-- A default literal comes first, even an empty one. -/
theorem fallback_of_literal {literal : Text} (h : q.fallback = some literal) :
    fallback env q error = .byDefault literal := by
  rw [fallback, h]

/-- Without a default literal, the environment is what it shows for the key. -/
theorem fallback_eq_environment_iff (henv : env.WellFormed) (h : q.fallback = none) {value : Text} :
    fallback env q error = .environment value ↔ env.Shows q.key value := by
  rw [← henv.get?_eq_some_iff, fallback, h]
  cases env.get? q.key <;> simp

/-- With neither, there is the error. -/
theorem fallback_of_not_shows (henv : env.WellFormed) (h : q.fallback = none)
    (hshows : ∀ value, ¬ env.Shows q.key value) : fallback env q error = .failed error := by
  rw [fallback, h]
  cases hget : env.get? q.key with
  | none => rfl
  | some value => exact absurd (henv.get?_eq_some_iff.1 hget) (hshows value)

/-! ## Variables -/

variable {r : Resolver} {world : World} {calls : Calls} {v : Variable}

/-- The provider of a variable's type is registered and offers these candidates to the filters. -/
def Discovers (r : Resolver) (world : World) (calls : Calls) (v : Variable) (provider : Provider)
    (found : List Candidate) : Prop :=
  r.registry.get? v.typeName = some provider ∧
    (provider.discover (r.context world) (calls.count v.typeName) v.key).candidates? = some found

/-- Nothing is left to select: the type is not registered, or its filters leave no candidate. -/
def NothingLeft (r : Resolver) (world : World) (calls : Calls) (v : Variable) : Prop :=
  r.registry.get? v.typeName = none ∨
    ∃ provider found, r.Discovers world calls v provider found ∧
      provider.left? v.filters found = some []

/-- The error of a variable for which there is nothing. -/
def missing (r : Resolver) (v : Variable) (discoveryError : Option Text) : ResolveError :=
  if r.registry.get? v.typeName = none then .unregisteredType v.typeName v.key
  else .notFound v.typeName v.key (attempts discoveryError)

/-- The attempt at a variable of a type that is not registered ends in the fallback. -/
theorem attempt_of_unregistered {p : Placeholder} (hbody : p.body = .lookup v)
    (h : r.registry.get? v.typeName = none) :
    (r.attempt world calls p).1 = .finished ⟨p.raw, some v.typeName,
      fallback world.env (p.request v) (.unregisteredType v.typeName v.key), none, 0⟩ := by
  rw [attempt, hbody]
  simp only [h]
  rfl

/-- The attempt at a variable whose provider offers candidates ends in what is chosen of them, and
reports the error of discovery. -/
theorem attempt_of_discovers {p : Placeholder} (hbody : p.body = .lookup v) {provider : Provider}
    {found : List Candidate} (h : r.Discovers world calls v provider found) :
    ∃ res, (r.attempt world calls p).1 = .finished res ∧
      res.outcome = choose provider (r.context world) (p.request v) res.discoveryError found ∧
      ∀ message, res.discoveryError = some message ↔ ∃ e,
        provider.discover (r.context world) (calls.count v.typeName) v.key = .failed e ∧
          e.message = message := by
  obtain ⟨hget, hfound⟩ := h
  rw [attempt, hbody]
  simp only [hget]
  cases hdiscover : provider.discover (r.context world) (calls.count v.typeName) v.key with
  | found cs =>
    rw [hdiscover] at hfound
    cases hfound
    exact ⟨_, rfl, rfl, fun message => by simp⟩
  | failed e =>
    rw [hdiscover] at hfound
    cases hfound
    exact ⟨_, rfl, rfl, fun message => by simp⟩
  | panicked =>
    rw [hdiscover] at hfound
    cases hfound
  | pending =>
    rw [hdiscover] at hfound
    cases hfound

/-- What a variable comes to, and what decides over it. -/
structure Decided (r : Resolver) (world : World) (calls : Calls) (p : Placeholder) (v : Variable)
    (res : Resolution) : Prop where
  /-- It falls back exactly if nothing is left to select. -/
  fallback_iff : res.outcome.IsFallback ↔ r.NothingLeft world calls v
  /-- It falls back on the default literal if it has one. -/
  literal : r.NothingLeft world calls v → ∀ literal, v.fallback = some literal →
    res.outcome = .byDefault literal
  /-- Without one, it falls back on what the environment shows for its key. -/
  environment : r.NothingLeft world calls v → v.fallback = none → world.env.WellFormed →
    ∀ value, res.outcome = .environment value ↔ world.env.Shows v.key value
  /-- For a key without equals signs, this is the variable with exactly this name. -/
  exactly : r.NothingLeft world calls v → v.fallback = none → world.env.WellFormed →
    '=' ∉ v.key → ∀ value, res.outcome = .environment value ↔ (v.key, value) ∈ world.env.entries
  /-- With neither, it is an error that says whether the type is registered. -/
  marker : r.NothingLeft world calls v → v.fallback = none → world.env.WellFormed →
    (∀ value, ¬ world.env.Shows v.key value) →
    res.outcome = .failed (r.missing v res.discoveryError)
  /-- If a filter is unknown or fails, the first one that does decides, and the error names it. -/
  stopped : ∀ provider found, r.Discovers world calls v provider found →
    provider.left? v.filters found = none →
    ∃ before call after cs error, v.filters = before ++ call :: after ∧
      provider.left? before found = some cs ∧ Stops provider (p.request v) cs call error ∧
      res.outcome = .failed error
  /-- If candidates are left, the first one decides: it is the value, or a failure. -/
  chosen : ∀ provider found c rest, r.Discovers world calls v provider found →
    provider.left? v.filters found = some (c :: rest) →
    res.outcome = select provider (r.context world) (p.request v) c ∧
      (Passes provider (r.context world) v.key c →
        ∃ value warnings, res.outcome = .discovered value warnings) ∧
      (¬ Passes provider (r.context world) v.key c →
        ∃ e, res.outcome = .failed e ∧ IsObjection e)
  /-- There is an error of discovery exactly if the type is registered and its discovery fails. -/
  discoveryError : ∀ message, res.discoveryError = some message ↔
    ∃ provider e, r.registry.get? v.typeName = some provider ∧
      provider.discover (r.context world) (calls.count v.typeName) v.key = .failed e ∧
      e.message = message

/-- Offers of candidates are offers of one provider, and there is one only. -/
theorem Discovers.unique {provider provider' : Provider} {found found' : List Candidate}
    (h : r.Discovers world calls v provider found)
    (h' : r.Discovers world calls v provider' found') : provider' = provider ∧ found' = found := by
  obtain rfl : provider' = provider := Option.some.inj (h'.1.symm.trans h.1)
  exact ⟨rfl, Option.some.inj (h'.2.symm.trans h.2)⟩

/-- With the error that fits, a fallback is one. -/
theorem isFallback_fallback (env : Environment) (q : Request) (r : Resolver) (v : Variable)
    (discoveryError : Option Text) :
    (fallback env q (r.missing v discoveryError)).IsFallback := by
  unfold fallback missing
  cases q.fallback with
  | some literal => exact .inl rfl
  | none =>
    cases env.get? q.key with
    | some value => exact .inr (.inl rfl)
    | none =>
      by_cases h : r.registry.get? v.typeName = none
      · exact .inr (.inr (.inr ⟨_, _, by rw [if_pos h]; rfl⟩))
      · exact .inr (.inr (.inl ⟨_, _, _, by rw [if_neg h]; rfl⟩))

/-- If nothing is left, a variable that comes to the fallback is decided, for nothing else decides
over it. -/
theorem Decided.of_nothingLeft {p : Placeholder} {res : Resolution}
    (hleft : r.NothingLeft world calls v)
    (houtcome : res.outcome
      = fallback world.env (p.request v) (r.missing v res.discoveryError))
    (herror : ∀ message, res.discoveryError = some message ↔
      ∃ provider e, r.registry.get? v.typeName = some provider ∧
        provider.discover (r.context world) (calls.count v.typeName) v.key = .failed e ∧
        e.message = message) :
    r.Decided world calls p v res := by
  have hnil : ∀ provider found, r.Discovers world calls v provider found →
      provider.left? v.filters found = some [] := by
    intro provider found hdiscovers
    rcases hleft with hnone | ⟨provider', found', hdiscovers', hnil⟩
    · cases hnone.symm.trans hdiscovers.1
    · obtain ⟨rfl, rfl⟩ := hdiscovers.unique hdiscovers'
      exact hnil
  refine ⟨?_, ?_, ?_, ?_, ?_, ?_, ?_, herror⟩
  · rw [houtcome]
    exact iff_of_true (isFallback_fallback ..) hleft
  · intro _ literal hliteral
    rw [houtcome]
    exact fallback_of_literal hliteral
  · intro _ hnone henv value
    rw [houtcome]
    exact fallback_eq_environment_iff henv hnone
  · intro _ hnone henv hkey value
    rw [houtcome, ← Environment.shows_iff_mem hkey]
    exact fallback_eq_environment_iff henv hnone
  · intro _ hnone henv hshows
    rw [houtcome]
    exact fallback_of_not_shows henv hnone hshows
  · intro provider found hdiscovers hstopped
    cases hstopped.symm.trans (hnil provider found hdiscovers)
  · intro provider found c rest hdiscovers hcons
    cases hcons.symm.trans (hnil provider found hdiscovers)

/-- If something is left, a variable that comes to what is chosen is decided, and does not fall
back. -/
theorem Decided.of_left {p : Placeholder} {res : Resolution} {provider : Provider}
    {found : List Candidate} (hdiscovers : r.Discovers world calls v provider found)
    (hleft : provider.left? v.filters found ≠ some [])
    (houtcome : res.outcome
      = choose provider (r.context world) (p.request v) res.discoveryError found)
    (herror : ∀ message, res.discoveryError = some message ↔
      ∃ provider e, r.registry.get? v.typeName = some provider ∧
        provider.discover (r.context world) (calls.count v.typeName) v.key = .failed e ∧
        e.message = message) :
    r.Decided world calls p v res := by
  have hnot : ¬ r.NothingLeft world calls v := by
    rintro (hnone | ⟨provider', found', hdiscovers', hnil⟩)
    · cases hnone.symm.trans hdiscovers.1
    · obtain ⟨rfl, rfl⟩ := hdiscovers.unique hdiscovers'
      exact hleft hnil
  refine ⟨?_, fun h => absurd h hnot, fun h => absurd h hnot, fun h => absurd h hnot,
    fun h => absurd h hnot, ?_, ?_, herror⟩
  · refine iff_of_false ?_ hnot
    rw [houtcome]
    cases hlist : provider.left? v.filters found with
    | none =>
      obtain ⟨before, call, after, cs, error, -, -, hstops, hchoose⟩ :=
        choose_of_not_left? (q := p.request v) hlist
      rw [hchoose]
      exact hstops.not_isFallback
    | some cs =>
      cases cs with
      | nil => exact absurd hlist hleft
      | cons c rest =>
        rw [choose_of_left?_cons hlist]
        exact not_isFallback_select _ _ _ _
  · intro provider' found' hdiscovers' hlist
    obtain ⟨rfl, rfl⟩ := hdiscovers.unique hdiscovers'
    rw [houtcome]
    exact choose_of_not_left? (q := p.request v) hlist
  · intro provider' found' c rest hdiscovers' hlist
    obtain ⟨rfl, rfl⟩ := hdiscovers.unique hdiscovers'
    have hselect := houtcome.trans (choose_of_left?_cons hlist)
    rw [hselect]
    exact ⟨rfl, select_of_passes (q := p.request v), select_of_not_passes (q := p.request v)⟩

/-- If discovery neither breaks down nor hangs, the attempt at a variable ends, and what it comes to
is decided by the filters, the first candidate that they leave, and the fallbacks. -/
theorem resolve_decided (r : Resolver) (world : World) (calls : Calls) {p : Placeholder}
    {v : Variable} (hbody : p.body = .lookup v)
    (hanswers : ∀ provider, r.registry.get? v.typeName = some provider →
      ∃ found, r.Discovers world calls v provider found) :
    ∃ res, (r.attempt world calls p).1 = .finished res ∧ r.Decided world calls p v res := by
  cases hget : r.registry.get? v.typeName with
  | none =>
    refine ⟨_, attempt_of_unregistered hbody hget, .of_nothingLeft (.inl hget) ?_ fun message => ?_⟩
    · rw [missing, if_pos hget]
    · simp [hget]
  | some provider =>
    obtain ⟨found, hdiscovers⟩ := hanswers provider hget
    obtain ⟨res, hres, houtcome, herror⟩ := attempt_of_discovers hbody hdiscovers
    refine ⟨res, hres, ?_⟩
    have hregistered : r.registry.get? v.typeName ≠ none := by simp [hget]
    have herror : ∀ message, res.discoveryError = some message ↔
        ∃ provider e, r.registry.get? v.typeName = some provider ∧
          provider.discover (r.context world) (calls.count v.typeName) v.key = .failed e ∧
          e.message = message := by
      intro message
      rw [herror, hget]
      simp
    by_cases hleft : provider.left? v.filters found = some []
    · refine .of_nothingLeft (.inr ⟨provider, found, hdiscovers, hleft⟩) ?_ herror
      rw [missing, if_neg hregistered, houtcome]
      exact choose_of_left?_nil hleft
    · exact .of_left hdiscovers hleft houtcome herror

/-- A resolver with a provider whose discovery fails. -/
def failing : Resolver where
  registry := ⟨[("x".toList, Scripted.provider (.fail "gone".toList) [] false)]⟩
  root := ⟨['/']⟩

/-- After a discovery that fails, known filters leave nothing, and a default literal is used though
it is empty. -/
theorem resolve_decided_empty_literal :
    let world : World := ⟨⟨.empty, []⟩, ⟨[]⟩, ⟨0, 0, 0⟩⟩
    let v : Variable := ⟨['x'], ['x'], [⟨"reverse".toList, none⟩], some []⟩
    let p := Placeholder.parse "\x7b\x7b$x:reverse|default=\x7d\x7d".toList
    p.body = .lookup v ∧
      (∀ provider, failing.registry.get? v.typeName = some provider →
        ∃ found, failing.Discovers world [] v provider found) ∧
      ∃ res, (failing.attempt world [] p).1 = .finished res ∧ res.outcome = .byDefault [] ∧
        res.discoveryError = some "Command 'x' failed: gone".toList := by
  intro world v p
  have hbody : p.body = .lookup v := by decide +kernel
  have hdiscovers : failing.Discovers world [] v
      (Scripted.provider (.fail "gone".toList) [] false) [] := ⟨rfl, rfl⟩
  have hanswers : ∀ provider, failing.registry.get? v.typeName = some provider →
      ∃ found, failing.Discovers world [] v provider found := by
    intro provider hget
    obtain rfl := Option.some.inj (hdiscovers.1.symm.trans hget)
    exact ⟨[], hdiscovers⟩
  obtain ⟨res, hres, hdecided⟩ := resolve_decided failing world [] hbody hanswers
  have hleft : failing.NothingLeft world [] v := .inr ⟨_, _, hdiscovers, rfl⟩
  exact ⟨hbody, hanswers, res, hres, hdecided.literal hleft [] rfl,
    (hdecided.discoveryError _).2 ⟨_, _, hdiscovers.1, rfl, rfl⟩⟩

/-- An environment with a variable whose value has an equals sign in it. -/
def nestedEnvironment : Environment :=
  ⟨[(['A'], "B=hello".toList)]⟩

/-- The environment is not asked for the variable named exactly like the key: without a variable of
the name `A=B`, this key finds what stands behind `B=` in the value of `A`. -/
theorem not_named_exactly :
    ¬ ∀ (r : Resolver) (world : World) (calls : Calls) (p : Placeholder) (v : Variable)
      (res : Resolution), world.env.WellFormed → p.body = .lookup v →
      (r.attempt world calls p).1 = .finished res → r.NothingLeft world calls v →
      v.fallback = none → ∀ value, res.outcome = .environment value →
        (v.key, value) ∈ world.env.entries := by
  intro h
  have henv : nestedEnvironment.WellFormed :=
    ⟨by decide, by decide, by decide, by decide⟩
  have hbody : (Placeholder.parse "\x7b\x7b$x.A=B\x7d\x7d".toList).body
      = .lookup ⟨['x'], "A=B".toList, [], none⟩ := by decide +kernel
  have hvalue : fallback nestedEnvironment
      ⟨"\x7b\x7b$x.A=B\x7d\x7d".toList, ['x'], "A=B".toList, [], none⟩
      (.unregisteredType ['x'] "A=B".toList) = .environment "hello".toList := by decide
  have hmem := h ⟨.empty, [], ⟨['/']⟩, none⟩ ⟨⟨.empty, []⟩, nestedEnvironment, ⟨0, 0, 0⟩⟩ [] _ _ _
    henv hbody (attempt_of_unregistered hbody rfl) (.inl rfl) rfl "hello".toList hvalue
  exact absurd hmem (by decide)

end Resolver

end Stencil
