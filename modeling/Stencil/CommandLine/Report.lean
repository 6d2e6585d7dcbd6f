import Stencil.Data.Json
import Stencil.Resolve.Compile

/-!
# Reports

What the commands tell about a compile or a template, in lines for a reader or as a value for a
program.
-/

namespace Stencil.CommandLine

/-- The marks of things that are right and wrong. -/
def mark (isRight : Bool) : Text :=
  if isRight then ['✓'] else ['✗']

/-! ## Compiles -/

/-- The lines about a compile. -/
def compileLines (c : Compilation) (path : Option Path) : List Text :=
  let s := c.summary
  let first :=
    match path with
    | some p => mark true ++ " Compiled to ".toList ++ p.text
    | none => mark true ++ " Compiled".toList
  let counts :=
    "  Placeholders: ".toList ++ Text.ofNat s.placeholders ++ " (".toList
      ++ Text.ofNat s.occurrences ++ " occurrences)".toList
  let fallbacks :=
    if s.defaulted + s.fromEnvironment = 0 then []
    else
      ["  Fallbacks: ".toList ++ Text.ofNat s.defaulted ++ " default, ".toList
        ++ Text.ofNat s.fromEnvironment ++ " environment".toList]
  let errors := c.failures.filterMap (·.outcome.error?)
  first :: counts :: fallbacks
    ++ errors.map (fun e => "  ".toList ++ mark false ++ ' ' :: e.message)
    ++ c.warnings.map ("  ! ".toList ++ ·)

/-- The counts as a value. -/
def summaryValue (s : Summary) : Value :=
  .record
    [("total_placeholders".toList, .ofNat s.placeholders),
      ("occurrences".toList, .ofNat s.occurrences), ("discovered".toList, .ofNat s.discovered),
      ("defaulted".toList, .ofNat s.defaulted),
      ("from_environment".toList, .ofNat s.fromEnvironment), ("failed".toList, .ofNat s.failed),
      ("warnings".toList, .ofNat s.warnings)]

/-- What has become of a placeholder as a value. -/
def resolutionValue (r : Resolution) : Value :=
  .record
    [("raw".toList, .text r.raw), ("type_name".toList, .ofText? r.typeName),
      ("source".toList, .text r.outcome.source.text), ("value".toList, .text r.outcome.value),
      ("error".toList, .ofText? (r.outcome.error?.map ResolveError.message)),
      ("discovery_error".toList, .ofText? r.discoveryError),
      ("warnings".toList, .list (r.outcome.warnings.map .text)),
      ("candidates".toList, .ofNat r.candidates),
      ("duration".toList, .record [("secs".toList, .ofNat 0), ("nanos".toList, .ofNat 0)])]

/-- A moment in the form of RFC 3339 with a `Z` at its end. -/
def stamp (m : Moment) : Text :=
  m.toText.take (m.toText.length - 6) ++ ['Z']

/-- The report on a compile as a value. `id` tells compiles apart, and the two moments are its start
and end. -/
def compileValue (id : Text) (start stop : Moment) (c : Compilation) (path : Option Path) : Value :=
  .record
    [("compile_id".toList, .text id), ("output_path".toList, .ofText? (path.map Path.text)),
      ("start_time".toList, .text (stamp start)), ("end_time".toList, .text (stamp stop)),
      ("summary".toList, summaryValue c.summary),
      ("placeholders".toList, .list (c.results.map resolutionValue))]

/-! ## Templates -/

/-- A placeholder of a template with what is known before it is resolved. -/
structure CheckEntry where
  placeholder : Placeholder
  occurrences : Nat
  /-- Whether the type is registered; file references need none. -/
  registered : Bool

/-- The placeholders of a template, in order. -/
def checkEntries (registry : Registry) (t : Template) : List CheckEntry :=
  t.placeholders.zipIdx.map fun (p, index) =>
    { placeholder := p
      occurrences := t.occurrences.countP (·.index = index)
      registered :=
        match p.body with
        | .lookup v => registry.contains v.typeName
        | _ => true }

namespace CheckEntry

variable (e : CheckEntry)

/-- What the line about a placeholder ends with. -/
def detail : Text :=
  match e.placeholder.body with
  | .malformed error => "error: ".toList ++ error.message
  | .lookup _ =>
    if e.registered then "variable".toList
    else "unregistered type (default/environment fallback only)".toList
  | .file _ => "file".toList

/-- The line about a placeholder. -/
def line : Text :=
  "  ".toList ++ mark (!e.placeholder.isMalformed) ++ ' ' :: e.placeholder.raw ++ " x".toList
    ++ Text.ofNat e.occurrences ++ " (".toList ++ e.detail ++ [')']

/-- What is known about a placeholder as a value. -/
def value : Value :=
  let own : List (Text × Value) :=
    match e.placeholder.body with
    | .file path => [("kind".toList, .ofString "file"), ("path".toList, .text path)]
    | .lookup v =>
      [("kind".toList, .ofString "variable"), ("type".toList, .text v.typeName),
        ("key".toList, .text v.key),
        ("filters".toList, .list (v.filters.map fun f =>
          .record [("name".toList, .text f.name), ("arg".toList, .ofText? f.arg)])),
        ("default".toList, .ofText? v.fallback), ("registered".toList, .bool e.registered)]
    | .malformed error =>
      [("kind".toList, .ofString "malformed"), ("error".toList, .text error.message)]
  .record
    (("raw".toList, .text e.placeholder.raw) :: ("occurrences".toList, .ofNat e.occurrences) :: own)

end CheckEntry

/-- The lines about the placeholders of a template. -/
def checkLines (template : Path) (entries : List CheckEntry) : List Text :=
  (Text.ofNat entries.length ++ " placeholder(s) in ".toList ++ template.text)
    :: entries.map CheckEntry.line

/-! ## Types -/

/-- A text filled with blanks on the right up to a width. -/
def padded (width : Nat) (s : Text) : Text :=
  s ++ List.replicate (width - s.length) ' '

/-- The lines about the types of a registry. -/
def typeLines (r : Registry) : List Text :=
  r.sorted.flatMap fun (name, p) =>
    (padded 10 name ++ ' ' :: p.description)
      :: if p.filterNames.isEmpty then []
        else [padded 10 [] ++ " filters: ".toList ++ Text.join ", ".toList p.filterNames]

end Stencil.CommandLine
