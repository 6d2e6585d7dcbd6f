import Stencil.Text.Property.Alphanumeric
import Stencil.Text.Property.Word
import Stencil.Text.Basic

/-!
# Word replacement

Rules that replace whole words of a text before its placeholders are read. A key counts as a whole
word where it is not glued to a neighbouring word: if its first character is a letter, a digit or an
underscore, a word boundary is required there, and likewise at its last character. Keys whose edge
is punctuation, such as `$ROOT`, need no boundary on that side. Values are put in literally.
-/

namespace Stencil

/-- A key and the text that replaces it. -/
structure WordRule where
  key : Text
  value : Text
  /-- A rule replaces something. -/
  key_ne_nil : key ≠ []

namespace WordRule

/-- The edge characters of a key at which a word boundary is required. -/
def needsBoundary (c : Char) : Bool :=
  isAlphanumeric c || c = '_'

/-- A word boundary lies between a word character and anything else, the ends of the text
included. -/
def isBoundary (before after : Option Char) : Bool :=
  before.any isWordChar != after.any isWordChar

/-- Whether the edges of a key allow a match between the two neighbours. -/
def fits (key : Text) (before after : Option Char) : Bool :=
  (!key.head?.any needsBoundary || isBoundary before key.head?)
    && (!key.getLast?.any needsBoundary || isBoundary key.getLast? after)

/-- What follows a match is shorter than what the match begins. -/
theorem length_lt_of_match (r : WordRule) {s rest : Text}
    (h : Text.dropMark? r.key s = some rest) : rest.length < s.length := by
  have hs := Text.dropMark?_eq_some_iff.1 h
  have hkey := List.length_pos_iff.2 r.key_ne_nil
  simp only [hs, List.length_append]
  omega

/-- Replaces matches from left to right. `before` is the character before the rest of the text, and
`out` holds what has been written, the last character first. -/
def applyFrom (r : WordRule) (before : Option Char) (out s : Text) : Text :=
  match h : Text.dropMark? r.key s with
  | some rest =>
    have := r.length_lt_of_match h
    -- The key is here, but it may be glued to a neighbour.
    if fits r.key before rest.head? then
      applyFrom r r.key.getLast? (r.value.reverse ++ out) rest
    else
      match s with
      | [] => out.reverse
      | c :: s => applyFrom r (some c) (c :: out) s
  | none =>
    match s with
    | [] => out.reverse
    | c :: s => applyFrom r (some c) (c :: out) s
termination_by s.length

/-- Replaces the leftmost, non-overlapping matches of a rule. -/
def apply (r : WordRule) (s : Text) : Text :=
  applyFrom r none [] s

/-- The rules for a list of keys and values, in order; `none` if a key is empty. -/
def ofPairs? : List (Text × Text) → Option (List WordRule)
  | [] => some []
  | (key, value) :: rest =>
    if h : key = [] then none else (ofPairs? rest).map (⟨key, value, h⟩ :: ·)

/-- The text that a user is shown if a key is empty. -/
def emptyKeyMessage : Text :=
  "Static substitution key cannot be empty".toList

/-- Applies rules one after the other, each to the result of the one before. -/
def applyAll (rules : List WordRule) (s : Text) : Text :=
  rules.foldl (fun s r => r.apply s) s

end WordRule

end Stencil
