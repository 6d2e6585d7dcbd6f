import Stencil.CommandLine.Usage

/-!
# Invocations

What the arguments of the program ask for: one of the commands `compile`, `check` and `types`, with
the options that go with every command.
-/

namespace Stencil.CommandLine

/-- What is asked of the command `compile`. -/
structure CompileOptions where
  template : Path
  output : Option Path := none
  name : Option Text := none
  fixed : Bool := false
  stdout : Bool := false
  substitutions : List Text := []
  json : Bool := false
  strict : Bool := false
  deriving DecidableEq, Repr

/-- A command. -/
inductive Command
  | compile (options : CompileOptions)
  | check (template : Path) (substitutions : List Text) (json : Bool)
  | types
  deriving DecidableEq, Repr

/-- A command with the options that go with every command. -/
structure Invocation where
  command : Command
  verbose : Bool := false
  config : Option Path := none
  noColor : Bool := false
  deriving DecidableEq, Repr

/-! ## Grammars -/

/-- The options that go with every command. -/
def commonSwitches : List Switch :=
  [⟨"verbose", some 'v', .nothing⟩, ⟨"config", some 'c', .path⟩, ⟨"no-color", none, .nothing⟩,
    ⟨"help", some 'h', .help⟩]

/-- The options before a command. -/
def topSwitches : List Switch :=
  commonSwitches ++ [⟨"version", some 'V', .version⟩]

/-- The option that sets a word rule. -/
def substituteSwitch : Switch :=
  ⟨"substitute", some 'S', .texts⟩

/-- The arguments of `compile`. A document on the standard output goes neither with options about
files nor with a report. -/
def compileGrammar : Grammar where
  switches :=
    commonSwitches ++
      [⟨"output", some 'o', .path⟩, ⟨"name", some 'n', .text⟩, ⟨"fixed", none, .nothing⟩,
        ⟨"stdout", none, .nothing⟩, substituteSwitch, ⟨"json", none, .nothing⟩,
        ⟨"strict", none, .nothing⟩]
  takesTemplate := true
  conflicts := [("stdout", "output"), ("stdout", "fixed"), ("stdout", "json")]

/-- The arguments of `check`. -/
def checkGrammar : Grammar where
  switches := commonSwitches ++ [substituteSwitch, ⟨"json", none, .nothing⟩]
  takesTemplate := true

/-- The arguments of `types`. -/
def typesGrammar : Grammar where
  switches := commonSwitches

/-! ## Commands -/

/-- The template that has been read. -/
def template (r : Reading) : Path :=
  ⟨(r.value? templateSwitch.name).getD []⟩

/-- Reads the command `compile`. -/
def readCompile (arguments : List Text) : Except Refusal (Command × Reading) := do
  let r ← Reading.all compileGrammar {} arguments
  return (.compile
    { template := template r
      output := (r.value? "output").map Path.mk
      name := r.value? "name"
      fixed := r.has "fixed"
      stdout := r.has "stdout"
      substitutions := r.values "substitute"
      json := r.has "json"
      strict := r.has "strict" }, r)

/-- Reads the command `check`. -/
def readCheck (arguments : List Text) : Except Refusal (Command × Reading) := do
  let r ← Reading.all checkGrammar {} arguments
  return (.check (template r) (r.values "substitute") (r.has "json"), r)

/-- Reads the command `types`. -/
def readTypes (arguments : List Text) : Except Refusal (Command × Reading) := do
  let r ← Reading.all typesGrammar {} arguments
  return (.types, r)

/-! ## Subcommands -/

/-- The name of a subcommand. -/
inductive Subcommand
  | compile
  | check
  | types
  | help
  deriving DecidableEq, Repr

/-- The subcommand with a name. -/
def subcommand? (name : Text) : Option Subcommand :=
  match String.ofList name with
  | "compile" => some .compile
  | "check" => some .check
  | "types" => some .types
  | "help" => some .help
  | _ => none

/-- What the subcommand `help` comes to, given what it is asked about. -/
def readHelp : List Text → Refusal
  | [] => .help
  | [name] => if (subcommand? name).isSome then .help else .unknownSubcommand
  | _ => .unknownSubcommand

/-- Reads the arguments from a subcommand on. -/
def readSubcommand (s : Subcommand) (rest : List Text) : Except Refusal (Command × Reading) :=
  match s with
  | .compile => readCompile rest
  | .check => readCheck rest
  | .types => readTypes rest
  | .help => .error (readHelp rest)

/-- Reads arguments. Of an option that is given before the command and behind it, the one behind it
counts. -/
def readFrom (r : Reading) : List Text → Except Refusal Invocation
  | [] => do
    let r ← r.settle
    .error (if r.given.isEmpty then .noArguments else .noSubcommand)
  | argument :: rest =>
    -- A word is no subcommand where it is the value of an option, or behind two hyphens.
    match if r.escaped || r.awaiting then none else subcommand? argument with
    | some s => do
      let (command, inner) ← readSubcommand s rest
      let r ← r.settle
      return {
        command
        verbose := r.has "verbose" || inner.has "verbose"
        config := ((inner.value? "config").or (r.value? "config")).map Path.mk
        noColor := r.has "no-color" || inner.has "no-color" }
    | none => do
      match ← r.option? topSwitches argument with
      | some r => readFrom r rest
      | none =>
        .error
          (if r.escaped && (subcommand? argument).isSome then .unknownArgument
          else .unknownSubcommand)

/-- Reads the arguments of the program. -/
def read (arguments : List Text) : Except Refusal Invocation :=
  readFrom {} arguments

end Stencil.CommandLine
