import Stencil.Files.Path

/-!
# Options of the command line

How arguments are read as options and words. An option is named by a word after two hyphens or by a
letter after one; letters can stand together, and a value can be attached to its option. The value
of an option, like the template, is only looked at when the next option comes or the arguments end,
so an earlier fault may be found after a later one.
-/

namespace Stencil.CommandLine

/-- A reason for which arguments are not run. -/
inductive Refusal
  /-- Help is asked for. -/
  | help
  /-- The version is asked for. -/
  | version
  /-- There are no arguments at all. -/
  | noArguments
  | noSubcommand
  | noTemplate
  | unknownArgument
  | unknownSubcommand
  /-- Two options exclude each other, or one is given twice. -/
  | conflict
  /-- An option has no value, or a path is empty. -/
  | invalidValue
  /-- An option that takes no value has one. -/
  | tooManyValues
  deriving DecidableEq, Repr

/-- What is expected of an option. -/
inductive Takes
  | nothing
  | text
  | path
  /-- A text each time the option is given, which may be often. -/
  | texts
  | help
  | version
  deriving DecidableEq, Repr

/-- Whether a value is expected. -/
def Takes.value : Takes → Bool
  | text | path | texts => true
  | nothing | help | version => false

/-- An option. -/
structure Switch where
  name : String
  letter : Option Char := none
  takes : Takes := .nothing
  deriving DecidableEq, Repr

/-- The arguments that a subcommand knows. -/
structure Grammar where
  switches : List Switch
  /-- Whether a template is expected. -/
  takesTemplate : Bool := false
  /-- The pairs of options that exclude each other. -/
  conflicts : List (String × String) := []

/-- The template, which is no option but is treated as the value of one. -/
def templateSwitch : Switch :=
  { name := "template", takes := .path }

/-- What has been read of the arguments. -/
structure Reading where
  /-- The options that are complete, with their values, the last one first. -/
  given : List (String × Option Text) := []
  /-- The option that is being read, with its value. -/
  pending : Option (Switch × Option Text) := none
  /-- Whether the next word is the value of the option that is being read. -/
  awaiting : Bool := false
  /-- Whether only words follow. -/
  escaped : Bool := false
  /-- Whether the template has been read. -/
  hasTemplate : Bool := false

namespace Reading

variable (r : Reading)

/-- Whether an option has been given. -/
def has (name : String) : Bool :=
  r.given.any (·.1 = name)

/-- The value of an option. -/
def value? (name : String) : Option Text :=
  (r.given.lookup name).join

/-- The values of an option in the order in which they were given. -/
def values (name : String) : List Text :=
  (r.given.reverse.filter (·.1 = name)).filterMap Prod.snd

/-- Adds an option with its value. -/
def give (s : Switch) (value : Option Text) : Except Refusal Reading :=
  let added : Reading := { r with given := (s.name, value) :: r.given }
  match s.takes, value with
  | .help, _ => .error .help
  | .version, _ => .error .version
  | .nothing, _ => if r.has s.name then .error .conflict else .ok added
  | _, none => .error .invalidValue
  | .texts, some _ => .ok added
  | .text, some _ => if r.has s.name then .error .conflict else .ok added
  | .path, some v =>
    if r.has s.name then .error .conflict
    else if v.isEmpty then .error .invalidValue
    else .ok added

/-- Completes the option that is being read. -/
def settle : Except Refusal Reading :=
  match r.pending with
  | none => .ok r
  | some (s, value) => Reading.give { r with pending := none, awaiting := false } s value

/-- Begins an option, whose value may be attached. -/
def start (s : Switch) (attached : Option Text) : Except Refusal Reading := do
  let r ← r.settle
  match attached with
  | some v => r.give s (some v)
  | none =>
    if s.takes.value then return { r with pending := some (s, none), awaiting := true }
    else r.give s none

/-- Reads an option that is named by a word, behind its hyphens. -/
def long (known : List Switch) (body : Text) : Except Refusal Reading :=
  let (name, attached) :=
    match Text.splitFirst? '=' body with
    | some (name, v) => (name, some v)
    | none => (body, none)
  match known.find? (·.name.toList = name) with
  | none => .error .unknownArgument
  | some s =>
    -- A value that is attached to a flag is refused before the flag counts.
    if attached.isSome && !s.takes.value then .error .tooManyValues else r.start s attached

/-- Reads options that are named by letters, behind their hyphen. -/
def short (known : List Switch) (r : Reading) : Text → Except Refusal Reading
  | [] => .ok r
  | c :: rest =>
    match known.find? (·.letter = some c) with
    | none => .error .unknownArgument
    | some s =>
      if s.takes.value then
        match rest with
        | [] => r.start s none
        -- The equals sign between a letter and its value is no part of the value.
        | '=' :: v => r.start s (some v)
        | v => r.start s (some v)
      else do
        let r ← r.start s none
        short known r rest

/-- Reads an argument if it is an option or the value of one. -/
def option? (known : List Switch) (argument : Text) : Except Refusal (Option Reading) :=
  if r.escaped then .ok none
  else
    match argument with
    | ['-', '-'] => .ok (some { r with escaped := true })
    | '-' :: '-' :: body => (r.long known body).map some
    | '-' :: c :: letters => (r.short known (c :: letters)).map some
    | _ =>
      match r.awaiting, r.pending with
      | true, some (s, _) =>
        .ok (some { r with pending := some (s, some argument), awaiting := false })
      | _, _ => .ok none

/-- Reads an argument that is no option. -/
def word (g : Grammar) (argument : Text) : Except Refusal Reading :=
  if g.takesTemplate && !r.hasTemplate then do
    let r ← r.settle
    return { r with pending := some (templateSwitch, some argument), hasTemplate := true }
  else .error .unknownArgument

/-- Reads the arguments of a subcommand. -/
def all (g : Grammar) (r : Reading) : List Text → Except Refusal Reading
  | [] => do
    let r ← r.settle
    if g.conflicts.any fun (a, b) => r.has a && r.has b then .error .conflict
    else if g.takesTemplate && !r.hasTemplate then .error .noTemplate
    else .ok r
  | argument :: rest => do
    match ← r.option? g.switches argument with
    | some r => all g r rest
    | none =>
      let r ← r.word g argument
      all g r rest

end Reading

end Stencil.CommandLine
