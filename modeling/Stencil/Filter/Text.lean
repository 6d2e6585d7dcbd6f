import Stencil.Filter.Argument
import Stencil.Provider.Candidate
import Stencil.Text.Case

/-!
# Text filters

The filters that providers of text share. Each changes every candidate that is a text, keeps the
others, and keeps their number and order; it fails only over its argument.
-/

namespace Stencil.TextFilter

/-- Changes every candidate that is a text. -/
def mapText (f : Text → Text) (cs : List Candidate) : List Candidate :=
  cs.map (Candidate.mapText f)

/-- Turns texts into upper case. -/
def upper : Filter := fun cs _ => .ok (mapText Text.upper cs)

/-- Turns texts into lower case. -/
def lower : Filter := fun cs _ => .ok (mapText Text.lower cs)

/-- Strips blanks at both ends. -/
def trim : Filter := fun cs _ => .ok (mapText Text.trim cs)

/-- Keeps the first characters. -/
def truncate : Filter := fun cs arg => do
  let n ← Argument.count "truncate".toList arg
  return mapText (·.take n) cs

/-- Keeps the first lines. -/
def lines : Filter := fun cs arg => do
  let n ← Argument.count "lines".toList arg
  return mapText (fun s => Text.join ['\n'] ((Text.lines s).take n)) cs

/-- Puts a text before each text. -/
def before : Filter := fun cs arg => do
  let added ← Argument.text "prefix".toList arg
  return mapText (added ++ ·) cs

/-- Puts a text behind each text. -/
def behind : Filter := fun cs arg => do
  let added ← Argument.text "suffix".toList arg
  return mapText (· ++ added) cs

/-- Replaces every occurrence of the first argument by the second. -/
def replace : Filter := fun cs arg =>
  let name := "replace".toList
  match arg with
  | none => .error (.missingArgument name)
  | some s =>
    match Argument.split s with
    | [pattern, value] =>
      if pattern.isEmpty then
        .error (.invalidArgument name "search text cannot be empty".toList)
      else .ok (mapText (Text.replace pattern value) cs)
    | parts =>
      .error (.invalidArgument name
        ("expected two arguments, got ".toList ++ Text.ofNat parts.length))

/-- The text filters by name. -/
def table : List (String × Filter) :=
  [("upper", upper), ("lower", lower), ("trim", trim), ("truncate", truncate), ("lines", lines),
    ("prefix", before), ("suffix", behind), ("replace", replace)]

end Stencil.TextFilter
