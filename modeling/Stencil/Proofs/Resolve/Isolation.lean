import Stencil.Proofs.Resolve.Tasks
import Stencil.Proofs.Template.Placeholders
import Stencil.Provider.Scripted

/-!
# Failures stay where they are

`compile_isolated` says that a document is its template with each token replaced by what the token
comes to when it is compiled alone, as long as providers are `Steady`: their answers depend on the
key alone, and none hangs without a timeout. It follows that exchanging the provider of one type, by
one that fails, breaks down, or hangs, leaves everything else as it was, and that file references
depend on no provider at all.

What carries the proof is that the task of a placeholder is `Settled`: it comes to the same result
after whatever calls of discovery, so that neither its neighbours nor the order of the tasks matter.
-/

namespace Stencil

/-! ## Documents piece by piece -/

namespace Compilation

/-- What a piece of the template is in the document. -/
def rendering (c : Compilation) : Token.Piece → Text
  | .plain s => s
  | .token raw => ((c.find? raw).map (·.outcome.value)).getD raw

/-- The document in pieces, one for each piece of the template. -/
def renderings (c : Compilation) : List Text :=
  c.template.pieces.map c.rendering

/-- A document is put together from its pieces. -/
theorem output_eq_flatten (c : Compilation) : c.output = c.renderings.flatten := by
  rw [renderings, ← List.flatMap_def]
  refine congrArg (List.flatMap · _) (funext fun piece => ?_)
  cases piece <;> rfl

/-- Two compilations of one template agree on some placeholders. -/
structure AgreeOn (P : Placeholder → Prop) (c c' : Compilation) : Prop where
  /-- The template is the same. -/
  template : c'.template = c.template
  /-- The results of these placeholders are the same. -/
  results : ∀ (i : Nat) p, c.template.placeholders[i]? = some p → P p →
    c'.results[i]? = c.results[i]?
  /-- Each document is put together from its pieces, one for each piece of the template. -/
  output : c.output = c.renderings.flatten ∧ c'.output = c'.renderings.flatten
  /-- Every piece that is not due to another placeholder is the same in both documents. -/
  renderings : ∀ (i : Nat) piece, c.template.pieces[i]? = some piece →
    (∀ raw, piece = .token raw → P (Placeholder.parse raw)) →
    c'.renderings[i]? = c.renderings[i]?

end Compilation

namespace Resolver

/-! ## Settled placeholders -/

/-- The task of a placeholder comes to this result, after whatever calls of discovery. -/
def Settled (r : Resolver) (world : World) (p : Placeholder) (res : Resolution) : Prop :=
  ∀ calls, r.result? world calls p = some res

/-- The providers of a resolver depend on the key alone, and none hangs if there is no timeout. -/
structure Steady (r : Resolver) (world : World) : Prop where
  key_alone : ∀ name provider, r.registry.get? name = some provider →
    ∀ earlier earlier' key, provider.discover (r.context world) earlier key
      = provider.discover (r.context world) earlier' key
  no_hang : r.timeout = none → ∀ name provider, r.registry.get? name = some provider →
    ∀ earlier key, provider.discover (r.context world) earlier key ≠ .pending

variable {r r' : Resolver} {world : World}

/-- Where two resolvers always attempt a placeholder to the same end, it is settled in both, unless
it hangs: then they need the same timeout. -/
theorem settled_of_attempt {p : Placeholder} {a : Attempt}
    (h : ∀ calls, (r.attempt world calls p).1 = a) (h' : ∀ calls, (r'.attempt world calls p).1 = a)
    (hpending : a = .pending → r.timeout ≠ none ∧ r'.timeout = r.timeout) :
    ∃ res, r.Settled world p res ∧ r'.Settled world p res := by
  -- The resolver has a say only in what becomes of an attempt that hangs.
  cases a with
  | finished res =>
    exact ⟨res, fun calls => by rw [result?, h, settle], fun calls => by rw [result?, h', settle]⟩
  | panicked =>
    exact ⟨_, fun calls => by rw [result?, h, settle], fun calls => by rw [result?, h', settle]⟩
  | pending =>
    obtain ⟨hlimit, htimeout⟩ := hpending rfl
    obtain ⟨millis, hmillis⟩ := Option.ne_none_iff_exists'.1 hlimit
    exact ⟨_, fun calls => by rw [result?, h, settle, hmillis, Option.map_some],
      fun calls => by rw [result?, h', settle, htimeout, hmillis, Option.map_some]⟩

/-- An attempt goes on without an end only if discovery does. -/
theorem eq_pending_of_proceed {provider : Provider} {context : Context} {q : Request}
    {d : Discovery} (h : proceed provider context q d = .pending) : d = .pending := by
  cases d with
  | pending => rfl
  | _ => cases h

/-- Discovery of files comes to an end. -/
theorem discover_file_ne_pending (context : Context) (earlier : Nat) (key : Text) :
    FileTree.provider.discover context earlier key ≠ .pending := by
  have h : FileTree.provider.discover context earlier key
      = .ofExcept (FileTree.discover context key) := rfl
  rw [h]
  cases FileTree.discover context key <;> simp [Discovery.ofExcept]

/-- Malformed placeholders are settled, and depend on the resolver in nothing. -/
theorem settled_of_malformed {p : Placeholder} {e : ParseError} (h : p.body = .malformed e) :
    ∃ res, r.Settled world p res ∧ r'.Settled world p res := by
  have hattempt : ∀ (r : Resolver) calls, (r.attempt world calls p).1
      = .finished ⟨p.raw, none, .failed (.malformed p.raw e), none, 0⟩ := by
    intro r calls
    rw [attempt, h]
  exact settled_of_attempt (hattempt r) (hattempt r') (by simp)

/-- File references are settled, and depend on the root alone. -/
theorem settled_of_file {p : Placeholder} {path : Text} (h : p.body = .file path)
    (hroot : r'.root = r.root) :
    ∃ res, r.Settled world p res ∧ r'.Settled world p res := by
  have hattempt : ∀ s : Resolver, s.root = r.root → ∀ calls, (s.attempt world calls p).1
      = proceed FileTree.provider (r.context world) ⟨p.raw, "file".toList, path, [], none⟩
          (FileTree.provider.discover (r.context world) 0 path) := by
    intro s hs calls
    have hcontext : s.context world = r.context world := by rw [context, context, hs]
    rw [attempt, h, hcontext]
  refine settled_of_attempt (hattempt r rfl) (hattempt r' hroot) fun hpending => ?_
  exact absurd (eq_pending_of_proceed hpending) (discover_file_ne_pending _ _ _)

/-- Variables are settled under steady providers, and depend on the root, the timeout, and the
provider of their type alone. -/
theorem settled_of_lookup (hr : r.Steady world) {p : Placeholder} {v : Variable}
    (h : p.body = .lookup v) (hroot : r'.root = r.root) (htimeout : r'.timeout = r.timeout)
    (hget : r'.registry.get? v.typeName = r.registry.get? v.typeName) :
    ∃ res, r.Settled world p res ∧ r'.Settled world p res := by
  cases hprovider : r.registry.get? v.typeName with
  | none =>
    have hattempt : ∀ s : Resolver, s.registry.get? v.typeName = r.registry.get? v.typeName →
        ∀ calls, (s.attempt world calls p).1
          = .finished ⟨p.raw, some v.typeName,
              fallback world.env ⟨p.raw, v.typeName, v.key, v.filters, v.fallback⟩
                (.unregisteredType v.typeName v.key), none, 0⟩ := by
      intro s hs calls
      rw [attempt, h]
      simp only [hs, hprovider]
    exact settled_of_attempt (hattempt r rfl) (hattempt r' hget) (by simp)
  | some provider =>
    have hattempt : ∀ s : Resolver, s.root = r.root →
        s.registry.get? v.typeName = r.registry.get? v.typeName →
        ∀ calls, (s.attempt world calls p).1
          = proceed provider (r.context world) ⟨p.raw, v.typeName, v.key, v.filters, v.fallback⟩
              (provider.discover (r.context world) 0 v.key) := by
      intro s hs hsget calls
      have hcontext : s.context world = r.context world := by rw [context, context, hs]
      rw [attempt, h]
      simp only [hsget, hprovider, hcontext]
      rw [hr.key_alone _ _ hprovider (calls.count v.typeName) 0 v.key]
    refine settled_of_attempt (hattempt r rfl rfl) (hattempt r' hroot hget) fun hpending => ?_
    -- Without a timeout, this provider would have to answer.
    exact ⟨fun hlimit => hr.no_hang hlimit _ _ hprovider 0 v.key (eq_pending_of_proceed hpending),
      htimeout⟩

/-- Under steady providers, every placeholder is settled. -/
theorem Steady.exists_settled (hr : r.Steady world) (p : Placeholder) :
    ∃ res, r.Settled world p res := by
  have hboth : ∃ res, r.Settled world p res ∧ r.Settled world p res := by
    cases hbody : p.body with
    | malformed e => exact settled_of_malformed hbody
    | file path => exact settled_of_file hbody rfl
    | lookup v => exact settled_of_lookup hr hbody rfl rfl rfl
  obtain ⟨res, hres, -⟩ := hboth
  exact ⟨res, hres⟩

/-! ## Compilations of settled placeholders -/

/-- The result of a settled placeholder stands in its place. -/
theorem getElem?_results {order : List Nat} {calls : Calls} {text : Text} {c : Compilation}
    (hc : (r.compileIn world order calls text).1 = some c) {i : Nat} {p : Placeholder}
    (hp : c.template.placeholders[i]? = some p) {res : Resolution}
    (hres : r.Settled world p res) : c.results[i]? = some res := by
  obtain ⟨-, -, hresults⟩ := results_of_compileIn hc
  obtain ⟨before, res', hget, hresult⟩ := hresults i p hp
  rw [hget, ← hresult, hres before]

/-- Without word rules, every result is what the task of the placeholder with its token comes to. -/
theorem result?_of_mem (hwords : r.words = []) {order : List Nat} {calls : Calls} {text : Text}
    {c : Compilation} (hc : (r.compileIn world order calls text).1 = some c) {res : Resolution}
    (hres : res ∈ c.results) :
    ∃ before, r.result? world before (Placeholder.parse res.raw) = some res := by
  obtain ⟨htemplate, hlength, hresults⟩ := results_of_compileIn hc
  obtain ⟨i, hi, hget⟩ := List.mem_iff_getElem.1 hres
  obtain ⟨p, hp⟩ : ∃ p, c.template.placeholders[i]? = some p :=
    ⟨_, List.getElem?_eq_getElem (hlength ▸ hi)⟩
  obtain ⟨before, found, hfound, hresult⟩ := hresults i p hp
  rw [List.getElem?_eq_getElem hi, hget] at hfound
  obtain rfl := Option.some.inj hfound
  have hmem := List.mem_of_getElem? hp
  rw [htemplate, prepare, hwords] at hmem
  have hparse := (Template.mem_placeholders.1 hmem).2
  rw [← raw_of_result? hresult] at hparse
  exact ⟨before, hparse ▸ hresult⟩

/-- The result of a settled placeholder is found by its token. -/
theorem find?_of_settled (hwords : r.words = []) {order : List Nat} {calls : Calls} {text : Text}
    {c : Compilation} (hc : (r.compileIn world order calls text).1 = some c) {p : Placeholder}
    (hp : p ∈ c.template.placeholders) {res : Resolution} (hres : r.Settled world p res) :
    c.find? p.raw = some res := by
  have hparse : p = Placeholder.parse p.raw := by
    rw [(results_of_compileIn hc).1, prepare, hwords] at hp
    exact (Template.mem_placeholders.1 hp).2
  obtain ⟨i, hi⟩ := List.mem_iff_getElem?.1 hp
  have hmem := List.mem_of_getElem? (getElem?_results hc hi hres)
  have hraw : res.raw = p.raw := raw_of_result? (hres [])
  cases hfind : c.find? p.raw with
  | none => exact absurd hraw (by simpa using List.find?_eq_none.1 hfind res hmem)
  | some found =>
    -- Whatever is found under the token is a result of the same placeholder.
    have hraw' : found.raw = p.raw := by simpa using List.find?_some hfind
    obtain ⟨before, hresult⟩ := result?_of_mem hwords hc (List.mem_of_find?_eq_some hfind)
    rw [hraw', ← hparse, hres before] at hresult
    exact hresult.symm

/-- Under steady providers, there is a compilation whatever the order of the tasks. -/
theorem Steady.exists_compilation (hr : r.Steady world) {order : List Nat} {text : Text}
    (horder : order.Perm (List.range (r.prepare text).placeholders.length)) (calls : Calls) :
    ∃ c, (r.compileIn world order calls text).1 = some c := by
  refine Resolver.exists_compilation ?_ ?_ calls
  · exact fun i hi => horder.mem_iff.2 (List.mem_range.2 hi)
  · intro p _ before
    obtain ⟨res, hres⟩ := hr.exists_settled p
    rw [hres before]
    rfl

/-- A token that is compiled alone has the one result that its placeholder is settled to, and its
value is the whole document. -/
theorem compile_token (hwords : r.words = []) {inner : Text} (h : Token.Closes inner)
    {res : Resolution} (hres : r.Settled world (Placeholder.parse (Token.braced inner)) res)
    (calls : Calls) :
    ∃ alone, (r.compile world calls (Token.braced inner)).1 = some alone ∧
      alone.results = [res] ∧ alone.output = res.outcome.value := by
  obtain ⟨hpieces, hplaceholders⟩ := Template.parse_of_closes h
  have hprepare : r.prepare (Token.braced inner) = Template.parse (Token.braced inner) := by
    rw [prepare, hwords]
    rfl
  obtain ⟨alone, halone⟩ : ∃ c, (r.compile world calls (Token.braced inner)).1 = some c := by
    refine exists_compilation (fun i hi => List.mem_range.2 hi) (fun p hp before => ?_) calls
    rw [hprepare, hplaceholders, List.mem_singleton] at hp
    rw [hp, hres before]
    rfl
  obtain ⟨htemplate, hlength, -⟩ := results_of_compileIn halone
  rw [hprepare] at htemplate
  rw [htemplate, hplaceholders] at hlength
  have hp : alone.template.placeholders[0]? = some (Placeholder.parse (Token.braced inner)) := by
    rw [htemplate, hplaceholders]
    rfl
  have hget := getElem?_results halone hp hres
  have hfind : alone.find? (Token.braced inner) = some res :=
    find?_of_settled hwords halone (List.mem_of_getElem? hp) hres
  refine ⟨alone, halone, ?_, ?_⟩
  · obtain ⟨only, honly⟩ := List.length_eq_one_iff.1 hlength
    rw [honly] at hget ⊢
    obtain rfl : only = res := Option.some.inj hget
    rfl
  · rw [Compilation.output_eq_flatten, Compilation.renderings, htemplate, hpieces]
    simp [Compilation.rendering, hfind]

/-- The document that a text is compiled to, if there is one. -/
def document? (r : Resolver) (world : World) (calls : Calls) (text : Text) : Option Text :=
  (r.compile world calls text).1.map Compilation.output

/-- The document of a token alone is the value that its placeholder is settled to. -/
theorem document?_token (hwords : r.words = []) {inner : Text} (h : Token.Closes inner)
    {res : Resolution} (hres : r.Settled world (Placeholder.parse (Token.braced inner)) res)
    (calls : Calls) : r.document? world calls (Token.braced inner) = some res.outcome.value := by
  obtain ⟨alone, halone, -, houtput⟩ := compile_token hwords h hres calls
  rw [document?, halone, Option.map_some, houtput]

/-- The value of a token that is compiled alone, which is that of the one result. -/
def valueAlone (r : Resolver) (world : World) (calls : Calls) (raw : Text) : Option Text :=
  (r.compile world calls raw).1.bind fun alone => alone.results.head?.map (·.outcome.value)

/-- Compilations of one text agree on the placeholders that are settled to the same results. -/
theorem agreeOn_of_settled {P : Placeholder → Prop} (hwords : r.words = [])
    (hwords' : r'.words = []) {order order' : List Nat} {calls calls' : Calls} {text : Text}
    {c c' : Compilation}
    (hc : (r.compileIn world order calls text).1 = some c)
    (hc' : (r'.compileIn world order' calls' text).1 = some c')
    (h : ∀ p, P p → ∃ res, r.Settled world p res ∧ r'.Settled world p res) : c.AgreeOn P c' := by
  have htemplate := (results_of_compileIn hc).1
  have htemplate' : c'.template = c.template := by
    rw [htemplate, (results_of_compileIn hc').1, prepare, prepare, hwords, hwords']
  refine ⟨htemplate', ?_, ⟨c.output_eq_flatten, c'.output_eq_flatten⟩, ?_⟩
  · intro i p hp hP
    obtain ⟨res, hres, hres'⟩ := h p hP
    rw [getElem?_results hc hp hres, getElem?_results hc' (htemplate' ▸ hp) hres']
  · intro i piece hpiece hP
    rw [Compilation.renderings, Compilation.renderings, htemplate', List.getElem?_map,
      List.getElem?_map, hpiece, Option.map_some, Option.map_some]
    cases piece with
    | plain s => rfl
    | token raw =>
      obtain ⟨res, hres, hres'⟩ := h _ (hP raw rfl)
      have hmem : Placeholder.parse raw ∈ c.template.placeholders := by
        rw [htemplate, prepare, hwords] at hpiece ⊢
        exact Template.mem_placeholders.2 ⟨List.mem_of_getElem? hpiece, rfl⟩
      have hfind := find?_of_settled hwords hc hmem hres
      have hfind' := find?_of_settled hwords' hc' (htemplate' ▸ hmem) hres'
      have hraw : (Placeholder.parse raw).raw = raw := rfl
      rw [hraw] at hfind hfind'
      rw [Compilation.rendering, Compilation.rendering, hfind, hfind']

/-- A placeholder of a text is settled to the one result that it has when its token is compiled
alone. -/
theorem exists_alone (hr : r.Steady world) (hwords : r.words = []) {text : Text} {p : Placeholder}
    (hp : p ∈ (Template.parse text).placeholders) (before : Calls) :
    ∃ alone res, (r.compile world before p.raw).1 = some alone ∧ alone.results = [res] ∧
      alone.output = res.outcome.value ∧ r.Settled world p res := by
  obtain ⟨hmem, hparse⟩ := Template.mem_placeholders.1 hp
  obtain ⟨inner, hraw, hinner⟩ := Token.closes_of_mem_pieces hmem
  obtain ⟨res, hres⟩ := hr.exists_settled p
  rw [hparse, hraw] at hres
  obtain ⟨alone, hcompile, hresults, houtput⟩ := compile_token hwords hinner hres before
  rw [← hraw] at hcompile hres
  exact ⟨alone, res, hcompile, hresults, houtput, hparse ▸ hres⟩

/-- A document is its template with each token replaced by the value of the token alone. -/
theorem output_eq_fill (hr : r.Steady world) (hwords : r.words = []) {text : Text}
    {order : List Nat} {calls : Calls} {c : Compilation}
    (hc : (r.compileIn world order calls text).1 = some c)
    (htemplate : c.template = Template.parse text) (before : Calls) :
    c.output = c.template.fill (r.valueAlone world before) := by
  rw [Compilation.output_eq_flatten, Compilation.renderings, Template.fill, List.flatMap_def]
  refine congrArg List.flatten (List.map_congr_left fun piece hpiece => ?_)
  cases piece with
  | plain s => rfl
  | token raw =>
    rw [htemplate] at hpiece
    have hmem : Placeholder.parse raw ∈ (Template.parse text).placeholders :=
      Template.mem_placeholders.2 ⟨hpiece, rfl⟩
    obtain ⟨alone, res, hcompile, hresults, -, hres⟩ := exists_alone hr hwords hmem before
    have hvalue : r.valueAlone world before raw = some res.outcome.value := by
      have hcompile : (r.compile world before raw).1 = some alone := hcompile
      rw [valueAlone, hcompile, Option.bind_some, hresults]
      rfl
    have hfind : c.find? raw = some res := find?_of_settled hwords hc (htemplate ▸ hmem) hres
    simp only [Compilation.rendering, hfind, hvalue, Option.map_some, Option.getD_some]

/-! ## Isolation -/

/-- Under steady providers and without word rules, whatever the order of the tasks:

* There is a compilation, and the result of each placeholder is the only one of the compilation of
  its token alone, whose document is the value of this result.
* The document is the template with each token replaced by the value of its token alone.
* A resolver that differs in the provider of one type yields a compilation that agrees on all
  placeholders but the variables of this type.
* A resolver that differs in anything but the root yields, if any, a compilation that agrees on all
  file references. -/
theorem compile_isolated (hr : r.Steady world) (hwords : r.words = []) {text : Text}
    {order : List Nat}
    (horder : order.Perm (List.range (Template.parse text).placeholders.length)) (calls : Calls) :
    ∃ c, (r.compileIn world order calls text).1 = some c ∧ c.template = Template.parse text ∧
      c.results.length = c.template.placeholders.length ∧
      (∀ (i : Nat) p, c.template.placeholders[i]? = some p → ∀ before, ∃ alone res,
        (r.compile world before p.raw).1 = some alone ∧ alone.results = [res] ∧
          alone.output = res.outcome.value ∧ c.results[i]? = some res) ∧
      (∀ before, c.output = c.template.fill (r.valueAlone world before)) ∧
      (∀ (name : Text) (r' : Resolver), r'.Steady world → r'.words = [] → r'.root = r.root →
        r'.timeout = r.timeout →
        (∀ other, other ≠ name → r'.registry.get? other = r.registry.get? other) →
        ∀ order' calls', order'.Perm (List.range (Template.parse text).placeholders.length) →
          ∃ c', (r'.compileIn world order' calls' text).1 = some c' ∧
            c.AgreeOn (fun p => ∀ v, p.body = .lookup v → v.typeName ≠ name) c') ∧
      ∀ (r' : Resolver) order' calls' c', r'.words = [] → r'.root = r.root →
        (r'.compileIn world order' calls' text).1 = some c' →
          c.AgreeOn (fun p => ∃ path, p.body = .file path) c' := by
  have hprepare : ∀ s : Resolver, s.words = [] → s.prepare text = Template.parse text := by
    intro s hs
    rw [prepare, hs]
    rfl
  obtain ⟨c, hc⟩ := hr.exists_compilation (hprepare r hwords ▸ horder) calls
  obtain ⟨htemplate, hlength, -⟩ := results_of_compileIn hc
  rw [hprepare r hwords] at htemplate
  refine ⟨c, hc, htemplate, hlength, ?_, output_eq_fill hr hwords hc htemplate, ?_, ?_⟩
  · intro i p hp before
    have hmem := List.mem_of_getElem? hp
    rw [htemplate] at hmem
    obtain ⟨alone, res, hcompile, hresults, houtput, hres⟩ := exists_alone hr hwords hmem before
    exact ⟨alone, res, hcompile, hresults, houtput, getElem?_results hc hp hres⟩
  · -- Only a variable of this type could tell the two resolvers apart.
    intro name r' hr' hwords' hroot htimeout hget order' calls' horder'
    obtain ⟨c', hc'⟩ := hr'.exists_compilation (hprepare r' hwords' ▸ horder') calls'
    refine ⟨c', hc', agreeOn_of_settled hwords hwords' hc hc' fun p hp => ?_⟩
    cases hbody : p.body with
    | malformed e => exact settled_of_malformed hbody
    | file path => exact settled_of_file hbody hroot
    | lookup v => exact settled_of_lookup hr hbody hroot htimeout (hget _ (hp v hbody))
  · intro r' order' calls' c' hwords' hroot hc'
    exact agreeOn_of_settled hwords hwords' hc hc' fun p ⟨path, hbody⟩ =>
      settled_of_file hbody hroot

/-- A resolver with a provider that does as it is told and with one that always answers. -/
def scripted (behaviour : Behaviour) : Resolver where
  registry :=
    ⟨[("slow".toList, Scripted.provider behaviour [] false),
      ("letters".toList, Scripted.plain [.text "quick".toList])]⟩
  root := ⟨['/']⟩
  timeout := some 50

/-- Scripted providers are steady as long as there is a timeout. -/
theorem scripted_steady (behaviour : Behaviour) (world : World) :
    (scripted behaviour).Steady world := by
  refine ⟨?_, fun h => by cases h⟩
  intro name provider h earlier earlier' key
  rcases List.mem_cons.1 (mem_of_lookup h) with heq | h
  · cases heq
    rfl
  · cases List.mem_singleton.1 h
    rfl

/-- A provider that hangs and one that answers make a difference only where they are asked for:
whether the one of `slow` does the one or the other, and whatever comes first, everything else is
the same. Each token stands in the document with what it comes to alone. -/
theorem compile_isolated_slow :
    let world : World := ⟨⟨.empty, []⟩, ⟨[]⟩, ⟨0, 0, 0⟩⟩
    let text := "{{$slow}} {{$letters}}".toList
    let timedOut := "<!-- Resolution of \x7b\x7b$slow\x7d\x7d timed out after 50ms -->".toList
    (scripted .hang).Steady world ∧ (scripted .hang).words = [] ∧
      [1, 0].Perm (List.range (Template.parse text).placeholders.length) ∧
      ∃ c c', ((scripted .hang).compileIn world [1, 0] [] text).1 = some c ∧
        ((scripted .echo).compileIn world [0, 1] [] text).1 = some c' ∧
        c.AgreeOn (fun p => ∀ v, p.body = .lookup v → v.typeName ≠ "slow".toList) c' ∧
        c.output = timedOut ++ " quick".toList ∧
        c.output = c.template.fill ((scripted .hang).valueAlone world []) ∧
        c'.output = "slow quick".toList := by
  intro world text timedOut
  have hsteady := scripted_steady .hang world
  have hlength : (Template.parse text).placeholders.length = 2 := by decide +kernel
  have horder : [1, 0].Perm (List.range (Template.parse text).placeholders.length) := by
    rw [hlength]
    decide
  obtain ⟨c, hc, -, -, -, hfill, hother, -⟩ := compile_isolated hsteady rfl horder []
  have hget : ∀ other, other ≠ "slow".toList →
      (scripted .echo).registry.get? other = (scripted .hang).registry.get? other := by
    intro other hne
    have hbeq : (other == "slow".toList) = false := beq_eq_false_iff_ne.2 hne
    simp only [scripted, Registry.get?, List.lookup_cons, hbeq]
  obtain ⟨c', hc', hagree⟩ := hother "slow".toList (scripted .echo)
    (scripted_steady .echo world) rfl rfl rfl hget [0, 1] [] (by rw [hlength]; decide)
  have houtput : ((scripted .hang).compileIn world [1, 0] [] text).1.map Compilation.output
      = some (timedOut ++ " quick".toList) := by
    decide +kernel
  have houtput' : ((scripted .echo).compileIn world [0, 1] [] text).1.map Compilation.output
      = some "slow quick".toList := by
    decide +kernel
  rw [hc] at houtput
  rw [hc'] at houtput'
  exact ⟨hsteady, rfl, horder, c, c', hc, hc', hagree, Option.some.inj houtput, hfill [],
    Option.some.inj houtput'⟩

end Resolver

end Stencil
