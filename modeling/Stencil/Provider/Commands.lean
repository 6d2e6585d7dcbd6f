import Stencil.Data.Json
import Stencil.Filter.Text
import Stencil.Provider.Basic
import Stencil.Shell.Run

/-!
# Commands

The provider of what shell commands write. Keys name commands; a command runs in the root directory,
and what it writes, stripped of blanks at both ends, is the only candidate. A command that writes
nothing but blanks has no candidates, and one that does not end well is an error.
-/

namespace Stencil.Commands

/-- The name of the shell. -/
def shell : Text :=
  "sh".toList

/-- The file system as a command sees it that is started in a directory. -/
def enter (files : FileSystem) (dir : Path) : Except FileError FileSystem :=
  match files.find true dir with
  | .ok (.node spot (.directory _)) => .ok { files with cwd := spot }
  | .ok (.node ..) => .error .notDirectory
  | .ok (.vacant ..) => .error .notFound
  | .error e => .error e

/-- Starts a script in a directory; the error is the text of why it cannot be started. -/
def start (world : World) (dir : Path) (script : Text) : Except Text Shell.Outcome :=
  if '\x00' ∈ script ∨ '\x00' ∈ dir.text then .error "nul byte found in provided data".toList
  else
    match enter world.files dir with
    | .ok files => .ok (Shell.run { world with files } script)
    | .error e => .error e.message

/-- Runs a script in a directory and returns what it has written, stripped of blanks; the error is
the text of why it did not end well. -/
def output (world : World) (dir : Path) (script : Text) : Except Text Text :=
  match start world dir script with
  | .error reason => .error ("failed to start '".toList ++ shell ++ "': ".toList ++ reason)
  | .ok outcome =>
    if outcome.ending = .exit 0 then .ok (Text.trim (Utf8.decodeLossy outcome.out))
    else
      .error
        (outcome.ending.text ++ " (".toList ++ Text.trim (Utf8.decodeLossy outcome.err) ++ [')'])

/-- The output of the command that a key names. -/
def discover (commands : List (Text × Text)) (context : Context) (key : Text) :
    Except ProviderError (List Candidate) :=
  match commands.lookup key with
  | none => .ok []
  | some script =>
    match output context.world context.root script with
    | .ok [] => .ok []
    | .ok s => .ok [.text s]
    | .error message => .error (.commandFailed key message)

/-- Only texts are rendered. -/
def render : Candidate → Except ProviderError Text
  | .text s => .ok s
  | .path p => .error (.unrenderable p.text)
  | .record v => .error (.unrenderable (Json.compact v))

/-- The provider of the output of the given commands. -/
def provider (commands : List (Text × Text)) : Provider :=
  .ofDiscovery "Output of commands from the `commands` section of the configuration"
    TextFilter.table (fun context _ key => .ofExcept (discover commands context key)) render

end Stencil.Commands
