import Stencil.Config.Basic
import Stencil.Provider.Clock
import Stencil.Provider.Commands
import Stencil.Provider.Values
import Stencil.Resolve.Resolver

/-!
# Setting up the resolver

The resolver that a configuration and the word rules of the command line make up. A rule of the
command line changes the value of a configured rule in its place; new rules come behind the
configured ones.
-/

namespace Stencil.CommandLine

/-- A reason for which there is no resolver. -/
inductive SetupError
  /-- A word rule of the command line is not a key, an equals sign and a value. -/
  | invalidSubstitution (argument : Text)
  /-- A word rule has an empty key. -/
  | emptyKey
  deriving DecidableEq, Repr

/-- The texts that a user is shown, each the reason for the one before. -/
def SetupError.messages : SetupError → List Text
  | invalidSubstitution argument =>
    ["Invalid substitution '".toList ++ argument ++ "'. Expected 'KEY=VALUE'".toList]
  | emptyKey => ["Invalid static substitutions".toList, WordRule.emptyKeyMessage]

/-- The key and the value that stand before and behind the first equals sign. The key is not empty.
-/
def keyValue (argument : Text) : Except SetupError (Text × Text) :=
  match Text.splitFirst? '=' argument with
  | some (c :: key, value) => .ok (c :: key, value)
  | _ => .error (.invalidSubstitution argument)

/-- The bindings that arguments of the command line make up. -/
def substitutions (arguments : List Text) : Except SetupError Bindings :=
  (arguments.mapM keyValue).map Bindings.ofPairs

/-- The provider of files and the ones that a configuration sets up. -/
def registry (c : Config) : Registry :=
  ((Registry.base.register "config".toList (Values.provider c.values)).register
    "command".toList (Commands.provider c.commands)).register "timestamp".toList Clock.provider

/-- The resolver. -/
def resolver (c : Config) (arguments : List Text) : Except SetupError Resolver := do
  let extra ← substitutions arguments
  match WordRule.ofPairs? (c.words.setAll extra) with
  | none => .error .emptyKey
  | some words =>
    return {
      registry := registry c
      words
      root := c.root
      timeout := c.timeoutSeconds.map (1000 * ·) }

end Stencil.CommandLine
