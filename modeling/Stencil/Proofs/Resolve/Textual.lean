import Stencil.Proofs.Data.Mapping
import Stencil.Proofs.Filter.Demand
import Stencil.Proofs.Resolve.Fallback
import Stencil.Provider.Clock
import Stencil.Provider.Commands
import Stencil.Provider.Values

/-!
# Providers of text

Fixed values, commands and the clock have filters that change candidates, but neither drop nor add
any. So once there is a candidate, there is no fallback, even if the filters leave nothing of its
text (`resolve_not_fallback`): the placeholder has a value, or the error is about a filter or about
the rendering. With fixed values and commands, which only have text filters, it has a value exactly
if all filters are known and take their arguments.
-/

namespace Stencil

/-! ## The number of candidates -/

/-- A filter that neither drops nor adds candidates. -/
def Filter.KeepsNumber (filter : Filter) : Prop :=
  ∀ cs arg cs', filter cs arg = .ok cs' → cs'.length = cs.length

/-- All filters of a provider keep the number of candidates. -/
def Provider.KeepsNumber (p : Provider) : Prop :=
  ∀ name filter, p.filter? name = some filter → filter.KeepsNumber

/-- A text filter keeps the number of candidates. -/
theorem TextFilter.keepsNumber {name : Text} {filter : Filter}
    (h : Provider.ofTable table name = some filter) : filter.KeepsNumber := by
  intro cs arg cs' hcs'
  rcases lookup_of_forall₂ actsBy_table (String.ofList name) with
    ⟨hnone, -⟩ | ⟨filter', d, hfilter', -, hacts⟩
  · cases hnone.symm.trans h
  · cases hfilter'.symm.trans h
    by_cases harg : d.Meets arg
    · obtain ⟨f, hf⟩ := hacts.maps arg harg
      cases (hf cs).symm.trans hcs'
      exact List.length_map _
    · obtain ⟨e, he⟩ := hacts.fails arg harg cs
      cases he.symm.trans hcs'

/-- The filter of moments keeps the number of candidates. -/
theorem TimeFilter.keepsNumber_format : Filter.KeepsNumber format := by
  intro cs arg cs' hcs'
  rw [format] at hcs'
  cases hpattern : Argument.text "format".toList arg with
  | error e =>
    rw [hpattern] at hcs'
    cases hcs'
  | ok pattern =>
    rw [hpattern] at hcs'
    exact (mapM_eq_ok_iff.1 hcs').length_eq.symm

/-- The filters of the clock keep the number of candidates. -/
theorem Clock.keepsNumber : Clock.provider.KeepsNumber := by
  intro name filter h
  have htable : Clock.filters.lookup (String.ofList name) = some filter := h
  rw [filters, List.lookup_cons] at htable
  split at htable
  · cases htable
    exact TimeFilter.keepsNumber_format
  · exact TextFilter.keepsNumber htable

/-- A chain of such filters leaves as many candidates as there were. -/
theorem Provider.KeepsNumber.length_left? {p : Provider} (h : p.KeepsNumber)
    {calls : List FilterCall} {found cs : List Candidate} (hleft : p.left? calls found = some cs) :
    cs.length = found.length := by
  induction calls generalizing found with
  | nil =>
    cases hleft
    rfl
  | cons call rest ih =>
    rw [left?, List.foldlM_cons, Option.bind_eq_bind, Option.bind_eq_some_iff] at hleft
    obtain ⟨next, hnext, hrest⟩ := hleft
    obtain ⟨filter, hfilter, happly⟩ := Option.bind_eq_some_iff.1 hnext
    rw [ih hrest]
    cases hok : filter found call.arg with
    | error e =>
      rw [hok] at happly
      cases happly
    | ok next' =>
      rw [hok] at happly
      cases happly
      exact h _ filter hfilter found call.arg next hok

/-! ## Chains of text filters -/

namespace TextFilter

variable {p : Provider}

/-- A call changes the texts if there is a filter of the name that takes the argument, and goes
wrong otherwise. -/
theorem run?_cases (hp : p.filter? = Provider.ofTable table) (call : FilterCall) :
    (Accepts call.name call.arg ∧ ∃ f, ∀ cs, call.run? p cs = some (mapText f cs)) ∨
      (¬ Accepts call.name call.arg ∧ ∀ cs, call.run? p cs = none) := by
  have hrun : ∀ cs, call.run? p cs = (table.lookup (String.ofList call.name)).bind
      fun filter => (filter cs call.arg).toOption := fun cs => by rw [FilterCall.run?, hp]; rfl
  rcases lookup_of_forall₂ actsBy_table (String.ofList call.name) with
    ⟨hnone, hdemand⟩ | ⟨filter, d, hfilter, hdemand, hacts⟩
  · refine .inr ⟨?_, fun cs => by rw [hrun, hnone]; rfl⟩
    rintro ⟨d, hd, -⟩
    cases hdemand.symm.trans hd
  · by_cases harg : d.Meets call.arg
    · obtain ⟨f, hf⟩ := hacts.maps _ harg
      exact .inl ⟨⟨d, hdemand, harg⟩, f, fun cs => by rw [hrun, hfilter, Option.bind_some, hf]; rfl⟩
    · refine .inr ⟨?_, fun cs => ?_⟩
      · rintro ⟨d', hd', harg'⟩
        cases hdemand.symm.trans hd'
        exact harg harg'
      · obtain ⟨e, he⟩ := hacts.fails _ harg cs
        rw [hrun, hfilter, Option.bind_some, he]
        rfl

/-- A chain leaves one text of one text if all filters are known and take their arguments. -/
theorem left?_of_accepts (hp : p.filter? = Provider.ofTable table) {calls : List FilterCall}
    (h : ∀ call ∈ calls, Accepts call.name call.arg) (s : Text) :
    ∃ t, p.left? calls [.text s] = some [.text t] := by
  induction calls generalizing s with
  | nil => exact ⟨s, rfl⟩
  | cons call rest ih =>
    obtain ⟨hcall, hrest⟩ := List.forall_mem_cons.1 h
    rcases run?_cases hp call with ⟨-, f, hf⟩ | ⟨hnot, -⟩
    · obtain ⟨t, ht⟩ := ih hrest (f s)
      exact ⟨t, by rw [Provider.left?, List.foldlM_cons, hf]; exact ht⟩
    · exact absurd hcall hnot

/-- A chain goes wrong if a filter is unknown or does not take its argument. -/
theorem left?_of_not_accepts (hp : p.filter? = Provider.ofTable table) {calls : List FilterCall}
    (h : ¬ ∀ call ∈ calls, Accepts call.name call.arg) (found : List Candidate) :
    p.left? calls found = none := by
  induction calls generalizing found with
  | nil => exact absurd (by simp) h
  | cons call rest ih =>
    rw [Provider.left?, List.foldlM_cons]
    rcases run?_cases hp call with ⟨hcall, f, hf⟩ | ⟨-, hnone⟩
    · rw [hf]
      exact ih (fun hrest => h (List.forall_mem_cons.2 ⟨hcall, hrest⟩)) _
    · rw [hnone]
      rfl

end TextFilter

/-! ## The providers -/

namespace Provider

/-- Fixed values and commands: providers whose candidates are texts. -/
inductive OfTexts : Provider → Prop
  | values (values : List (Text × Text)) : OfTexts (Values.provider values)
  | commands (commands : List (Text × Text)) : OfTexts (Commands.provider commands)

/-- Providers of text: those whose candidates are texts, and the clock. -/
inductive Textual : Provider → Prop
  | texts {p : Provider} (h : p.OfTexts) : Textual p
  | clock : Textual Clock.provider

variable {p : Provider}

/-- Providers of texts have the text filters. -/
theorem OfTexts.filter?_eq (h : p.OfTexts) : p.filter? = ofTable TextFilter.table := by
  cases h <;> rfl

/-- Providers of texts render a text as it is. -/
theorem OfTexts.render_text (h : p.OfTexts) (s : Text) : p.render (.text s) = .ok s := by
  cases h <;> rfl

/-- If a provider of texts discovers candidates, there is one, and it is a text. -/
theorem OfTexts.exists_text (h : p.OfTexts) {context : Context} {earlier : Nat} {key : Text}
    {c : Candidate} {rest : List Candidate}
    (hfound : p.discover context earlier key = .found (c :: rest)) :
    ∃ s, c = .text s ∧ rest = [] := by
  cases h with
  | values values =>
    have heq : Discovery.found ((values.lookup key).map Candidate.text).toList
        = .found (c :: rest) := hfound
    cases hvalue : values.lookup key with
    | none =>
      rw [hvalue] at heq
      cases heq
    | some s =>
      rw [hvalue] at heq
      cases heq
      exact ⟨s, rfl, rfl⟩
  | commands commands =>
    have heq : Discovery.ofExcept (Commands.discover commands context key)
        = .found (c :: rest) := hfound
    unfold Commands.discover at heq
    split at heq
    · cases heq
    · split at heq <;> cases heq
      exact ⟨_, rfl, rfl⟩

/-- Providers of text keep the number of candidates. -/
theorem Textual.keepsNumber (h : p.Textual) : p.KeepsNumber := by
  cases h with
  | texts h =>
    intro name filter hfilter
    rw [h.filter?_eq] at hfilter
    exact TextFilter.keepsNumber hfilter
  | clock => exact Clock.keepsNumber

/-- A candidate of a provider of text is what it is rendered to. -/
theorem Textual.select_eq (h : p.Textual) (context : Context) (q : Request) (c : Candidate) :
    Resolver.select p context q c =
      match p.render c with
      | .ok s => .discovered s []
      | .error e => .failed (.renderFailed q.raw e.message) := by
  have haccepted : p.validate context c q.key = .accepted := by
    cases h with
    | texts h => cases h <;> rfl
    | clock => rfl
  have hembeds : p.embeds = false := by
    cases h with
    | texts h => cases h <;> rfl
    | clock => rfl
  rw [Resolver.select, haccepted]
  simp only [hembeds, Bool.false_eq_true, if_false]
  cases p.render c <;> rfl

end Provider

/-! ## No fallback -/

/-- An error about a filter that is unknown or fails, or about the rendering. -/
inductive ResolveError.OfText : ResolveError → Prop
  | unknownFilter (raw typeName name : Text) : OfText (.unknownFilter raw typeName name)
  | filterFailed (raw name message : Text) : OfText (.filterFailed raw name message)
  | renderFailed (raw message : Text) : OfText (.renderFailed raw message)

namespace Resolver

variable {p : Provider} {q : Request}

/-- A filter call that goes wrong is an error of this kind. -/
theorem Stops.ofText {cs : List Candidate} {call : FilterCall} {error : ResolveError}
    (h : Stops p q cs call error) : error.OfText := by
  cases h with
  | unknown => exact .unknownFilter ..
  | failed => exact .filterFailed ..

/-- Of candidates of a provider of text, one becomes the value, or there is an error about a filter
or the rendering. -/
theorem choose_textual (hp : p.Textual) (context : Context) (discoveryError : Option Text)
    (c : Candidate) (rest : List Candidate) :
    (∃ s, choose p context q discoveryError (c :: rest) = .discovered s []) ∨
      ∃ e, choose p context q discoveryError (c :: rest) = .failed e ∧ e.OfText := by
  cases hleft : p.left? q.filters (c :: rest) with
  | none =>
    obtain ⟨_, _, _, _, error, -, -, hstops, hchoose⟩ := choose_of_not_left? (q := q) hleft
    exact .inr ⟨error, hchoose, hstops.ofText⟩
  | some cs =>
    have hlength := hp.keepsNumber.length_left? hleft
    obtain ⟨c', rest', rfl⟩ := List.exists_cons_of_length_eq_add_one hlength
    rw [choose_of_left?_cons hleft, hp.select_eq]
    cases p.render c' with
    | ok s => exact .inl ⟨s, rfl⟩
    | error e => exact .inr ⟨_, rfl, .renderFailed ..⟩

/-- Of a text of a provider of texts, there is a value exactly if all filters are known and take
their arguments. -/
theorem choose_text_iff (hp : p.OfTexts) (context : Context) (discoveryError : Option Text)
    (s : Text) :
    (choose p context q discoveryError [.text s]).source = .discovered ↔
      ∀ call ∈ q.filters, TextFilter.Accepts call.name call.arg := by
  by_cases h : ∀ call ∈ q.filters, TextFilter.Accepts call.name call.arg
  · obtain ⟨t, hleft⟩ := TextFilter.left?_of_accepts hp.filter?_eq h s
    rw [choose_of_left?_cons hleft, (Provider.Textual.texts hp).select_eq, hp.render_text]
    exact iff_of_true rfl h
  · have hleft := TextFilter.left?_of_not_accepts hp.filter?_eq h [.text s]
    obtain ⟨_, _, _, _, error, -, -, -, hchoose⟩ := choose_of_not_left? (q := q) hleft
    rw [hchoose]
    exact iff_of_false (by simp [Outcome.source]) h

/-- If a provider of text discovers a candidate, its variable does not fall back, whatever the
filters, the default literal and the environment are: it has a value, or an error about a filter or
the rendering. If the candidate is a text, it has a value exactly if all filters are known and take
their arguments. -/
theorem resolve_not_fallback {r : Resolver} {world : World} {calls : Calls}
    {placeholder : Placeholder} {v : Variable} (hbody : placeholder.body = .lookup v)
    {provider : Provider}
    (hprovider : provider.Textual) (hget : r.registry.get? v.typeName = some provider)
    {c : Candidate} {rest : List Candidate}
    (hfound : provider.discover (r.context world) (calls.count v.typeName) v.key
      = .found (c :: rest)) :
    ∃ res, (r.attempt world calls placeholder).1 = .finished res ∧
      ((∃ s, res.outcome = .discovered s []) ∨ ∃ e, res.outcome = .failed e ∧ e.OfText) ∧
      (provider.OfTexts → (res.outcome.source = .discovered ↔
        ∀ call ∈ v.filters, TextFilter.Accepts call.name call.arg)) := by
  have hdiscovers : r.Discovers world calls v provider (c :: rest) :=
    ⟨hget, by rw [hfound]; rfl⟩
  obtain ⟨res, hres, houtcome, -⟩ := attempt_of_discovers hbody hdiscovers
  refine ⟨res, hres, ?_, fun htexts => ?_⟩
  · rw [houtcome]
    exact choose_textual hprovider _ _ c rest
  · obtain ⟨s, rfl, rfl⟩ := htexts.exists_text hfound
    rw [houtcome]
    exact choose_text_iff htexts _ _ s

/-- A resolver with one fixed value. -/
def fixed : Resolver where
  registry := ⟨[("config".toList, Values.provider [(['k'], "text".toList)])]⟩
  root := ⟨['/']⟩

/-- A value of which the filters leave nothing is a value, though there is a default literal. -/
theorem resolve_not_fallback_emptied :
    let world : World := ⟨⟨.empty, []⟩, ⟨[]⟩, ⟨0, 0, 0⟩⟩
    let v : Variable :=
      ⟨"config".toList, ['k'], [⟨"truncate".toList, some "'0'".toList⟩], some "none".toList⟩
    let placeholder :=
      Placeholder.parse "\x7b\x7b$config.k:truncate('0')|default=none\x7d\x7d".toList
    placeholder.body = .lookup v ∧
      fixed.registry.get? v.typeName = some (Values.provider [(['k'], "text".toList)]) ∧
      (Values.provider [(['k'], "text".toList)]).discover (fixed.context world) 0 v.key
        = .found [.text "text".toList] ∧
      ∃ res, (fixed.attempt world [] placeholder).1 = .finished res ∧
        res.outcome.source = .discovered := by
  intro world v placeholder
  have hbody : placeholder.body = .lookup v := by decide +kernel
  have hget : fixed.registry.get? v.typeName
      = some (Values.provider [(['k'], "text".toList)]) := rfl
  have hfound : (Values.provider [(['k'], "text".toList)]).discover (fixed.context world)
      (Calls.count [] v.typeName) v.key = .found [.text "text".toList] := rfl
  have haccepts : ∀ call ∈ v.filters, TextFilter.Accepts call.name call.arg := by
    intro call hcall
    cases List.mem_singleton.1 hcall
    exact ⟨.count, rfl, 0, by decide⟩
  obtain ⟨res, hres, -, hiff⟩ :=
    resolve_not_fallback hbody (.texts (.values _)) hget hfound
  exact ⟨hbody, hget, hfound, res, hres, (hiff (.values _)).2 haccepts⟩

end Resolver

end Stencil
