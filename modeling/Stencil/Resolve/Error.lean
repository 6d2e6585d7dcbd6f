import Stencil.Template.ParseError
import Stencil.Text.Search

/-!
# Resolution errors

Why a placeholder has no value. The document shows the reason in a comment that stands where the
value would have stood.
-/

namespace Stencil

/-- A reason for which a placeholder has no value. -/
inductive ResolveError
  | malformed (raw : Text) (reason : ParseError)
  | unregisteredType (typeName key : Text)
  | notFound (typeName key attempts : Text)
  | unknownFilter (raw typeName filter : Text)
  | filterFailed (raw filter message : Text)
  | invalid (raw message : Text)
  | rejected (raw : Text)
  | renderFailed (raw message : Text)
  | timedOut (raw : Text) (millis : Nat)
  | aborted (raw message : Text)
  deriving DecidableEq, Repr

namespace ResolveError

/-- The text that a user is shown. -/
def message : ResolveError → Text
  | malformed raw reason => "Parse error in ".toList ++ raw ++ ": ".toList ++ reason.message
  | unregisteredType typeName key =>
    "Variable type '".toList ++ typeName ++ "' is not registered (key '".toList ++ key
      ++ "': no default, not an environment variable)".toList
  | notFound typeName key attempts =>
    "No value for $".toList ++ typeName ++ " (key '".toList ++ key ++ "'): ".toList ++ attempts
  | unknownFilter raw typeName filter =>
    "Unknown filter '".toList ++ filter ++ "' for variable type '".toList ++ typeName
      ++ "' in ".toList ++ raw
  | filterFailed raw filter message =>
    "Filter '".toList ++ filter ++ "' failed in ".toList ++ raw ++ ": ".toList ++ message
  | invalid raw message => "Validation error for ".toList ++ raw ++ ": ".toList ++ message
  | rejected raw => "Validation failed for ".toList ++ raw
  | renderFailed raw message => "Render error for ".toList ++ raw ++ ": ".toList ++ message
  | timedOut raw millis =>
    "Resolution of ".toList ++ raw ++ " timed out after ".toList ++ Text.ofNat millis ++ "ms".toList
  | aborted raw message => "Resolution of ".toList ++ raw ++ " aborted: ".toList ++ message

/-- The comment that stands in the place of the placeholder. The end mark of comments is broken up
inside of it, so that the comment ends where it should. -/
def marker (e : ResolveError) : Text :=
  "<!-- ".toList ++ Text.replace "-->".toList "-- >".toList e.message ++ " -->".toList

end ResolveError

end Stencil
