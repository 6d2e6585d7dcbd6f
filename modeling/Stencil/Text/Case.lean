import Stencil.Text.Property.Case
import Stencil.Text.Property.Cased

/-!
# Changing case

Upper and lower case forms of a whole text. Only one rule looks at the neighbours of a character: a
capital sigma is lowered to the final form where a cased character precedes it and none follows it,
case-ignorable characters being passed over on both sides.
-/

namespace Stencil.Text

/-- The upper case form of a text. -/
def upper (s : Text) : Text :=
  s.flatMap upperForm

/-- Whether the first character that is not case-ignorable is cased. -/
def meetsCased : Text → Bool
  | [] => false
  | c :: s => if isCaseIgnorable c then meetsCased s else isCased c

/-- The lower case form of a text. `seen` holds what has been read, the last character first, and
`out` what has been written, the last character first. -/
def lowerFrom (seen out : Text) : Text → Text
  | [] => out.reverse
  | c :: s =>
    let form :=
      if c = 'Σ' then
        -- A sigma at the end of a word.
        if meetsCased seen && !meetsCased s then ['ς'] else ['σ']
      else lowerForm c
    lowerFrom (c :: seen) (form.reverse ++ out) s

/-- The lower case form of a text. -/
def lower (s : Text) : Text :=
  lowerFrom [] [] s

end Stencil.Text
