import Stencil.Files.Error
import Stencil.Glob.Pattern

/-!
# Provider errors

Why a provider cannot discover, filter or render candidates.
-/

namespace Stencil

/-- A reason for which a provider fails. -/
inductive ProviderError
  | pattern (glob : Text) (fault : Glob.Fault)
  | file (error : FileError)
  | commandFailed (name message : Text)
  | missingArgument (filter : Text)
  | invalidArgument (filter message : Text)
  | unrenderable (shown : Text)
  deriving DecidableEq, Repr

/-- The text that a user is shown. -/
def ProviderError.message : ProviderError → Text
  | pattern glob fault =>
    "Invalid glob pattern: error parsing glob '".toList ++ glob ++ "': ".toList ++ fault.message
  | file error => "IO error: ".toList ++ error.message
  | commandFailed name message =>
    "Command '".toList ++ name ++ "' failed: ".toList ++ message
  | missingArgument filter => "Filter '".toList ++ filter ++ "' requires an argument".toList
  | invalidArgument filter message =>
    "Invalid argument for filter '".toList ++ filter ++ "': ".toList ++ message
  | unrenderable shown => "Cannot render candidate: ".toList ++ shown

end Stencil
