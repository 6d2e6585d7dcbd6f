import Stencil.CommandLine.Run

/-!
# The program as a process

What the program writes, the status that it exits with, and the files that it leaves: 0 if all went
well, 1 after an error, which is reported with its reasons, and 2 if the arguments cannot be run.
-/

namespace Stencil.CommandLine

/-- What the program has done. -/
structure Exit where
  status : Nat
  out : Text := []
  err : Text := []
  files : FileSystem

/-- A text whose lines, the first one aside, begin with a number of blanks. -/
def hanging (width : Nat) (s : Text) : Text :=
  Text.join ('\n' :: List.replicate width ' ') (Text.splitOn '\n' s)

/-- The reasons for an error. A single one has no number. -/
def reasonLines : List Text → List Text
  | [] => []
  | [reason] => ["    ".toList ++ hanging 4 reason]
  | reasons =>
    reasons.zipIdx.map fun (reason, n) =>
      List.leftpad 5 ' ' (Text.ofNat n) ++ ": ".toList ++ hanging 7 reason

/-- The report on a chain of errors. -/
def errorReport : List Text → Text
  | [] => []
  | error :: reasons =>
    let lines := reasonLines reasons
    let causes := if lines.isEmpty then [] else "\n\nCaused by:\n".toList ++ Text.join ['\n'] lines
    "Error: ".toList ++ error ++ causes ++ ['\n']

/-- The name and the version of the program. -/
def versionLine : Text :=
  "promptweave 0.1.0\n".toList

/-- How the program is used. -/
def usageText : Text :=
  unlines
    ["Usage: promptweave [OPTIONS] <COMMAND>".toList, [], "Commands:".toList,
      "  compile  Resolve every placeholder in a template and write the result".toList,
      "  check    Parse a template and list its placeholders without resolving them".toList,
      "  types    List the registered variable types and their filters".toList]

/-- What a reader of refused arguments is told. -/
def Refusal.message : Refusal → Text
  | help | noArguments => usageText
  | version => versionLine
  | noSubcommand => "error: a subcommand is required\n".toList
  | noTemplate => "error: the path of a template is required\n".toList
  | unknownArgument => "error: unexpected argument\n".toList
  | unknownSubcommand => "error: unrecognized subcommand\n".toList
  | conflict => "error: an argument cannot be used with another\n".toList
  | invalidValue => "error: a value is required for an argument\n".toList
  | tooManyValues => "error: unexpected value for an argument\n".toList

/-- Runs the program. -/
def process (world : World) (id : Text) (arguments : List Text) : Option Exit :=
  match read arguments with
  | .error refusal =>
    if refusal = .help ∨ refusal = .version then
      some { status := 0, out := refusal.message, files := world.files }
    else some { status := 2, err := refusal.message, files := world.files }
  | .ok invocation =>
    (run invocation world id).map fun effect =>
      { status := if effect.errors.isEmpty then 0 else 1
        out := effect.out
        err := effect.err ++ errorReport effect.errors
        files := effect.files }

end Stencil.CommandLine
