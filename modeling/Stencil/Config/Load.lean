import Stencil.Config.Basic
import Stencil.World

/-!
# Loading configurations

A configuration is read from the file that is given, or from the first that is there of several
places: the working directory under four names, then the home directory. Without a file everything
is as usual. Three environment variables have the last word.
-/

namespace Stencil

/-- A reason for which a configuration cannot be loaded. -/
inductive ConfigError
  | unreadable (path : Path) (error : FileError)
  | invalid (path : Path)
  deriving DecidableEq, Repr

/-- The texts that a user is shown, each the reason for the one before. -/
def ConfigError.messages : ConfigError → List Text
  | unreadable path e => ["Failed to read config ".toList ++ path.text, e.message]
  | invalid path => ["Invalid config ".toList ++ path.text]

namespace Config

/-- The file that is read if there is none. -/
def usualFile : Path :=
  ⟨"promptweave.yaml".toList⟩

/-- The files in the working directory, the first choice first. -/
def localFiles : List Path :=
  [usualFile, ⟨"promptweave.yml".toList⟩, ⟨".promptweave.yaml".toList⟩, ⟨".promptweave.yml".toList⟩]

/-- The file in the home directory. -/
def homeFile? (env : Environment) : Option Path :=
  match env.get? "HOME".toList with
  | some (c :: home) =>
    some (((Path.mk (c :: home)).join ⟨".promptweave".toList⟩).join ⟨"config.yaml".toList⟩)
  | _ => none

/-- The file that a configuration is read from if none is given. -/
def findFile (world : World) : Path :=
  ((localFiles ++ (homeFile? world.env).toList).find? world.files.isThere).getD usualFile

/-- Lets the environment have the last word. -/
def override (env : Environment) (c : Config) : Config :=
  { c with
    logging :=
      { level := (env.get? "PROMPTWEAVE_LOG_LEVEL".toList).getD c.logging.level
        format := (env.get? "PROMPTWEAVE_LOG_FORMAT".toList).getD c.logging.format }
    output :=
      { c.output with
        dir := ((env.get? "PROMPTWEAVE_OUTPUT_DIR".toList).map Path.mk).getD c.output.dir } }

/-- Reads a configuration from a file; without the file everything is as usual. -/
def readFile (files : FileSystem) (path : Path) : Except ConfigError Config :=
  if !files.isThere path then .ok {}
  else
    match files.readText path with
    | .error e => .error (.unreadable path e)
    | .ok s =>
      match parse? s with
      | some c => .ok c
      | none => .error (.invalid path)

/-- Loads the configuration. -/
def load (world : World) (given : Option Path) : Except ConfigError Config :=
  (readFile world.files (given.getD (findFile world))).map (override world.env)

end Config

end Stencil
