import Stencil.Text.Property.Blank

/-!
# Search and trim

Replacing every occurrence of a text, leftmost first and without overlap, stripping blanks, and
cutting a text into lines.
-/

namespace Stencil.Text

/-- Replaces the occurrences of `pattern` from left to right, each search going on behind the last
match. `out` holds what has been written, the last character first. An empty pattern occurs before
every character and at the end. -/
def replaceFrom (pattern value out : Text) (s : Text) : Text :=
  match dropMark? pattern s with
  | some rest =>
    match pattern with
    | _ :: _ =>
      if rest.length < s.length then replaceFrom pattern value (value.reverse ++ out) rest
      else out.reverse
    | [] =>
      match s with
      | [] => (value.reverse ++ out).reverse
      | c :: s => replaceFrom pattern value (c :: (value.reverse ++ out)) s
  | none =>
    match s with
    | [] => out.reverse
    | c :: s => replaceFrom pattern value (c :: out) s
termination_by s.length

/-- Replaces every leftmost, non-overlapping occurrence of `pattern` by `value`. -/
def replace (pattern value s : Text) : Text :=
  replaceFrom pattern value [] s

/-- Strips blanks at the start. -/
def trimStart (s : Text) : Text :=
  s.dropWhile isBlank

/-- Strips blanks at the end. -/
def trimEnd (s : Text) : Text :=
  (s.reverse.dropWhile isBlank).reverse

/-- Strips blanks at both ends. -/
def trim (s : Text) : Text :=
  trimEnd (trimStart s)

/-- Removes a carriage return at the end. -/
def dropReturn (s : Text) : Text :=
  if s.getLast? = some '\r' then s.dropLast else s

/-- The lines of a text. A line ends at a line feed, and a carriage return before the line feed
belongs to the line end. What follows the last line feed is a line unless it is empty. -/
def lines (s : Text) : List Text :=
  let pieces := splitOn '\n' s
  let last := pieces.getLast?.getD []
  pieces.dropLast.map dropReturn ++ if last.isEmpty then [] else [last]

end Stencil.Text
