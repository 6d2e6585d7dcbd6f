import Stencil.Text.Basic

/-!
# Parse errors

Why the text between double braces is neither a file reference nor a variable. Offsets count bytes
from the start of that text.
-/

namespace Stencil

/-- A reason why a placeholder is malformed. -/
inductive ParseError
  /-- There is nothing between the braces. -/
  | empty
  /-- The text begins with neither a slash nor a dollar sign. -/
  | unknownForm
  /-- The slash of a file reference stands alone. -/
  | emptyPath
  | missingIdentifier
  | missingKey
  | unexpectedChar (ch : Char) (offset : Nat)
  | missingFilterName (offset : Nat)
  | unterminatedArgument (filter : Text)
  | nestedParentheses (filter : Text)
  | unterminatedQuote (filter : Text)
  | invalidDefault
  deriving DecidableEq, Repr

/-- The text that a user is shown. -/
def ParseError.message : ParseError → Text
  | empty => "empty placeholder".toList
  | unknownForm => "placeholder must start with '/' (file) or '$' (variable)".toList
  | emptyPath => "file reference has an empty path".toList
  | missingIdentifier => "missing variable identifier".toList
  | missingKey => "missing key after '.'".toList
  | unexpectedChar ch offset =>
    "unexpected character '".toList ++ [ch] ++ "' at offset ".toList ++ Text.ofNat offset
  | missingFilterName offset => "missing filter name at offset ".toList ++ Text.ofNat offset
  | unterminatedArgument filter =>
    "unterminated argument for filter '".toList ++ filter ++ "'".toList
  | nestedParentheses filter =>
    "nested parentheses are not supported in the argument for filter '".toList ++ filter
      ++ "'".toList
  | unterminatedQuote filter =>
    "unterminated quoted string in the argument for filter '".toList ++ filter ++ "'".toList
  | invalidDefault => "expected 'default=' after '|'".toList

end Stencil
