import Stencil.CommandLine.Invocation
import Stencil.CommandLine.Report
import Stencil.CommandLine.Setup
import Stencil.Config.Load
import Stencil.Document.Template

/-!
# Running commands

What a command writes to its two outputs, the errors in which it ends, and the files that it leaves.
Errors are given as a chain of messages, each the reason for the one before; a command that ends
well has none.
-/

namespace Stencil.CommandLine

/-- What a command has done. -/
structure Effect where
  out : Text := []
  err : Text := []
  errors : List Text := []
  files : FileSystem

/-- Lines as text. -/
def unlines (lines : List Text) : Text :=
  lines.flatMap (· ++ ['\n'])

/-- A document on the standard output ends with a line feed. -/
def closed (s : Text) : Text :=
  if s.getLast? = some '\n' then s else s ++ ['\n']

/-- What the command `compile` says about a compile; the document itself is on the standard output
if it has no path. -/
def announce (o : CompileOptions) (world : World) (id : Text) (c : Compilation)
    (path : Option Path) : Text × Text :=
  let lines := unlines (compileLines c path)
  match path with
  | none => (closed c.output, lines)
  | some _ =>
    if o.json then (Json.pretty (compileValue id world.now world.now c path) ++ ['\n'], [])
    else (lines, [])

/-- The errors in which a compile ends that went through. -/
def strictErrors (o : CompileOptions) (c : Compilation) : List Text :=
  let failed := c.summary.failed
  if o.strict && 0 < failed then [Text.ofNat failed ++ " placeholder(s) failed to resolve".toList]
  else []

/-- The output settings of a compile. -/
def outputSettings (o : CompileOptions) (c : Config) : OutputSettings :=
  { c.output with
    dir := o.output.getD c.output.dir
    numbered := c.output.numbered && !o.fixed }

/-- Runs the command `compile`. There is no effect if the compile has no end. -/
def compile (o : CompileOptions) (c : Config) (world : World) (id : Text) : Option Effect :=
  let failed (errors : List Text) (files : FileSystem) : Option Effect := some { errors, files }
  match resolver c o.substitutions with
  | .error e => failed e.messages world.files
  | .ok r =>
    let finish (c : Compilation) (path : Option Path) (files : FileSystem) : Option Effect :=
      let (out, err) := announce o world id c path
      some { out, err, errors := strictErrors o c, files }
    let context := "Failed to compile ".toList ++ o.template.text
    if o.stdout then
      match (r.compileTemplate world [] o.template).1 with
      | none => none
      | some (.error e) => failed (context :: e.messages) world.files
      | some (.ok compilation) => finish compilation none world.files
    else
      match r.compileFile world [] (outputSettings o c) o.template o.name with
      | (none, _, _) => none
      | (some (.error e), _, files) => failed (context :: e.messages) files
      | (some (.ok (compilation, path)), _, files) => finish compilation (some path) files

/-- Runs the command `check`. -/
def check (template : Path) (substitutions : List Text) (json : Bool) (c : Config) (world : World) :
    Effect :=
  match world.files.readText template with
  | .error e =>
    { errors := ["Failed to read template ".toList ++ template.text, e.message]
      files := world.files }
  | .ok text =>
    match resolver c substitutions with
    | .error e => { errors := e.messages, files := world.files }
    | .ok r =>
      let entries := checkEntries r.registry (r.prepare text)
      let problems := entries.countP (·.placeholder.isMalformed)
      { out :=
          if json then Json.pretty (.list (entries.map CheckEntry.value)) ++ ['\n']
          else unlines (checkLines template entries)
        errors :=
          if problems = 0 then []
          else
            [Text.ofNat problems ++ " malformed placeholder(s) in ".toList ++ template.text]
        files := world.files }

/-- Runs a command with a configuration. `id` tells compiles apart. -/
def runCommand (command : Command) (c : Config) (world : World) (id : Text) : Option Effect :=
  match command with
  | .compile o => compile o c world id
  | .check template substitutions json => some (check template substitutions json c world)
  | .types => some { out := unlines (typeLines (registry c)), files := world.files }

/-- Loads the configuration and runs the command. -/
def run (i : Invocation) (world : World) (id : Text) : Option Effect :=
  match Config.load world i.config with
  | .error e => some { errors := e.messages, files := world.files }
  | .ok c => runCommand i.command c world id

end Stencil.CommandLine
