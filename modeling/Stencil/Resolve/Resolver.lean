import Stencil.Provider.Embed
import Stencil.Provider.Registry
import Stencil.Resolve.Resolution
import Stencil.Template.Basic
import Stencil.Template.Words

/-!
# Resolving placeholders

A resolver turns a placeholder into text. The provider of its type discovers candidates, the filters
are applied from left to right, and the first candidate that is left is validated and rendered. If
none is left, or the type is not registered, there is the default literal, then the environment
variable with the name of the key, then an error. File references always go to the provider of
files, whatever the registry holds.

Discovery is the only step that may break down or hang, and the only one that leaves a trace: the
history of calls, which tells a stateful provider how often it has been called.
-/

namespace Stencil

/-- The calls of discovery so far, as type name and key, the last one first. -/
abbrev Calls := List (Text × Text)

/-- How often the provider of a type has been called. -/
def Calls.count (calls : Calls) (typeName : Text) : Nat :=
  calls.countP (·.1 = typeName)

/-- The parts of a placeholder that matter once its provider is known. -/
structure Request where
  raw : Text
  typeName : Text
  key : Text
  filters : List FilterCall
  fallback : Option Text

/-- Where an attempt at a placeholder comes to. -/
inductive Attempt
  | finished (r : Resolution)
  | panicked
  | pending
  deriving DecidableEq, Repr

/-- What placeholders are resolved with. -/
structure Resolver where
  registry : Registry
  /-- The rules that are applied to a text before it is parsed. -/
  words : List WordRule := []
  /-- The project root. -/
  root : Path
  /-- The number of milliseconds that a placeholder may take. -/
  timeout : Option Nat := none

namespace Resolver

/-! ## Values -/

/-- The attempts that the error for a missing value speaks of. -/
def attempts (discoveryError : Option Text) : Text :=
  let discovery :=
    match discoveryError with
    | some message => "discovery failed (".toList ++ message ++ [')']
    | none => "no items discovered".toList
  discovery ++ ", no default, not an environment variable".toList

/-- What stands in when there is nothing to select: the default literal, then the environment, then
the error. -/
def fallback (env : Environment) (q : Request) (error : ResolveError) : Outcome :=
  match q.fallback with
  | some literal => .byDefault literal
  | none =>
    match env.get? q.key with
    | some value => .environment value
    | none => .failed error

/-- Applies filters from left to right. -/
def applyFilters (p : Provider) (q : Request) :
    List FilterCall → List Candidate → Except ResolveError (List Candidate)
  | [], cs => .ok cs
  | call :: rest, cs =>
    match p.filter? call.name with
    | none => .error (.unknownFilter q.raw q.typeName call.name)
    | some filter =>
      match filter cs call.arg with
      | .ok cs => applyFilters p q rest cs
      | .error e => .error (.filterFailed q.raw call.name e.message)

/-- Validates and renders a candidate. -/
def select (p : Provider) (context : Context) (q : Request) (c : Candidate) : Outcome :=
  match p.validate context c q.key with
  | .message reason => .failed (.invalid q.raw reason)
  | .rejected => .failed (.rejected q.raw)
  | .accepted =>
    match p.render c with
    | .error e => .failed (.renderFailed q.raw e.message)
    | .ok s =>
      -- What has been rendered is then the path of the file to put in.
      if p.embeds then
        match Embedded.load context.world.files ⟨s⟩ with
        | .ok file => .discovered file.content file.warnings
        | .error e => .failed (.renderFailed q.raw e.message)
      else .discovered s []

/-- What becomes of the candidates that were discovered. -/
def choose (p : Provider) (context : Context) (q : Request) (discoveryError : Option Text)
    (found : List Candidate) : Outcome :=
  match applyFilters p q q.filters found with
  | .error e => .failed e
  | .ok [] =>
    fallback context.world.env q (.notFound q.typeName q.key (attempts discoveryError))
  | .ok (c :: _) => select p context q c

/-! ## Attempts -/

/-- Goes on from what a call of discovery came to. -/
def proceed (p : Provider) (context : Context) (q : Request) : Discovery → Attempt
  | .found cs => .finished ⟨q.raw, some q.typeName, choose p context q none cs, none, cs.length⟩
  | .failed e =>
    .finished
      ⟨q.raw, some q.typeName, choose p context q (some e.message) [], some e.message, 0⟩
  | .panicked => .panicked
  | .pending => .pending

variable (r : Resolver)

/-- What providers are told. -/
def context (world : World) : Context :=
  ⟨r.root, world⟩

/-- Resolves a placeholder, without regard to the timeout. -/
def attempt (world : World) (calls : Calls) (p : Placeholder) : Attempt × Calls :=
  match p.body with
  | .malformed e => (.finished ⟨p.raw, none, .failed (.malformed p.raw e), none, 0⟩, calls)
  -- A file reference is no business of the registry and leaves no trace in the history.
  | .file path =>
    let q : Request := ⟨p.raw, "file".toList, path, [], none⟩
    (proceed FileTree.provider (r.context world) q
      (FileTree.provider.discover (r.context world) 0 path), calls)
  | .lookup v =>
    let q : Request := ⟨p.raw, v.typeName, v.key, v.filters, v.fallback⟩
    match r.registry.get? v.typeName with
    | none =>
      let outcome := fallback world.env q (.unregisteredType v.typeName v.key)
      (.finished ⟨p.raw, some v.typeName, outcome, none, 0⟩, calls)
    | some provider =>
      (proceed provider (r.context world) q
        (provider.discover (r.context world) (calls.count v.typeName) v.key),
        (v.typeName, v.key) :: calls)

/-- What an attempt means for the compile. A provider that breaks down fails its placeholder alone,
and so does one that hangs if there is a timeout; without one, the compile hangs too. -/
def settle (p : Placeholder) : Attempt → Option Resolution
  | .finished res => some res
  | .panicked =>
    some
      { raw := p.raw
        typeName := p.typeName?
        outcome := .failed (.aborted p.raw "variable provider panicked".toList) }
  | .pending =>
    r.timeout.map fun millis =>
      { raw := p.raw
        typeName := p.typeName?
        outcome := .failed (.timedOut p.raw millis) }

/-- Applies the word rules to a text and parses it. -/
def prepare (text : Text) : Template :=
  Template.parse (WordRule.applyAll r.words text)

end Resolver

end Stencil
