import Stencil.Resolve.Resolver

/-!
# Compiling texts

Each distinct placeholder of a text is resolved once, in a task of its own, and the values are put
in the place of the tokens. The tasks run in any order, which `compileIn` is given as a list of
their indices; results are in the order of the placeholders all the same.
-/

namespace Stencil

/-- A template with what has become of its placeholders. -/
structure Compilation where
  template : Template
  results : List Resolution

/-- The counts that a report begins with. -/
structure Summary where
  placeholders : Nat
  occurrences : Nat
  discovered : Nat
  defaulted : Nat
  fromEnvironment : Nat
  failed : Nat
  warnings : Nat
  deriving DecidableEq, Repr

namespace Compilation

variable (c : Compilation)

/-- What has become of a token. -/
def find? (raw : Text) : Option Resolution :=
  c.results.find? (·.raw = raw)

/-- The text with values in the place of tokens. -/
def output : Text :=
  c.template.fill fun raw => (c.find? raw).map (·.outcome.value)

/-- The placeholders without a value. -/
def failures : List Resolution :=
  c.results.filter Resolution.isFailed

/-- The warnings about all values. -/
def warnings : List Text :=
  c.results.flatMap (·.outcome.warnings)

/-- The number of results from a source. -/
def count (source : Source) : Nat :=
  c.results.countP (·.outcome.source = source)

/-- The counts. -/
def summary : Summary where
  placeholders := c.results.length
  occurrences := c.template.occurrences.length
  discovered := c.count .discovered
  defaulted := c.count .byDefault
  fromEnvironment := c.count .environment
  failed := c.count .failed
  warnings := c.warnings.length

end Compilation

namespace Resolver

/-- The results of tasks by index, and the calls of discovery so far. -/
structure Progress where
  results : List (Nat × Resolution) := []
  calls : Calls

variable (r : Resolver) (world : World)

/-- Runs the task of a placeholder. -/
def runTask (placeholders : List Placeholder) (st : Progress) (index : Nat) : Progress :=
  match placeholders[index]? with
  | none => st
  | some p =>
    let (attempt, calls) := r.attempt world st.calls p
    match r.settle p attempt with
    | some res => ⟨(index, res) :: st.results, calls⟩
    | none => { st with calls }

/-- Compiles a text with tasks that run in the given order, after the given calls of discovery.
There is no compilation if a task has no end. -/
def compileIn (order : List Nat) (calls : Calls) (text : Text) : Option Compilation × Calls :=
  let template := r.prepare text
  let st := order.foldl (r.runTask world template.placeholders) { calls }
  let results := (List.range template.placeholders.length).mapM (st.results.lookup ·)
  (results.map (Compilation.mk template), st.calls)

/-- Compiles a text with tasks that run in document order. -/
def compile (calls : Calls) (text : Text) : Option Compilation × Calls :=
  r.compileIn world (List.range (r.prepare text).placeholders.length) calls text

end Resolver

end Stencil
