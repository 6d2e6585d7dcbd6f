import Stencil.Text.Basic

/-!
# Paths

A path is kept as it was written, since that is how it is shown. Its components are what is left
when repeated slashes and dots inside the path are ignored; a dot counts only at the very start of a
relative path. Two paths lead to the same place if they have the same components, whatever links do.
-/

namespace Stencil

/-- A path as it was written. -/
structure Path where
  text : Text
  deriving DecidableEq, Repr

/-- A component of a path. -/
inductive Component
  | root
  | here
  | up
  | name (text : Text)
  deriving DecidableEq, Repr

namespace Path

/-- An absolute path begins with a slash. -/
def isAbsolute (p : Path) : Bool :=
  p.text.head? = some '/'

/-- The path that leads from `p` along `q`. An absolute `q` stands for itself. -/
def join (p q : Path) : Path :=
  if q.isAbsolute then q
  else
    match p.text.getLast? with
    | none => q
    | some '/' => ⟨p.text ++ q.text⟩
    | some _ => ⟨p.text ++ '/' :: q.text⟩

/-! ## Components -/

/-- Drops what has no component at the start of the rest of a path: slashes and dots. -/
def dropIdle : Text → Text
  | '/' :: s => dropIdle s
  | ['.'] => []
  | '.' :: '/' :: s => dropIdle s
  | s => s

/-- Drops what has no component at the end of the rest of a path. -/
def dropIdleEnd (s : Text) : Text :=
  (dropIdle s.reverse).reverse

/-- The first component, if it is one that only stands at the start, and the rest of the path. -/
def start (s : Text) : Option Component × Text :=
  match s with
  | '/' :: rest => (some .root, rest)
  | ['.'] => (some .here, [])
  | '.' :: '/' :: rest => (some .here, '/' :: rest)
  | s => (none, s)

/-- The component that a stretch between slashes stands for, if any. -/
def segment? (s : Text) : Option Component :=
  if s = [] ∨ s = ['.'] then none
  else if s = ['.', '.'] then some .up
  else some (.name s)

/-- The components of a path. -/
def components (p : Path) : List Component :=
  let (first, rest) := start p.text
  first.toList ++ (Text.splitOn '/' rest).filterMap segment?

/-- Reads the given components off the rest of a path. -/
def dropSegments : List Component → Text → Option Text
  | [], s => some s
  | c :: cs, s =>
    let s := dropIdle s
    if segment? (s.takeWhile (· ≠ '/')) = some c then dropSegments cs (s.dropWhile (· ≠ '/'))
    else none

/-- What is left of a path after the components of `base`, without idle slashes and dots at its
ends; `none` if the path does not begin with these components. -/
def stripBase? (p base : Path) : Option Path :=
  match base.components, start p.text with
  | [], (first, _) =>
    let kept := p.text.take first.toList.length
    some ⟨kept ++ dropIdleEnd (p.text.drop first.toList.length)⟩
  | c :: cs, (some first, rest) =>
    if c = first then (dropSegments cs rest).map fun s => ⟨dropIdleEnd (dropIdle s)⟩ else none
  | cs, (none, rest) => (dropSegments cs rest).map fun s => ⟨dropIdleEnd (dropIdle s)⟩

/-! ## Parts of a path -/

/-- The path of the directory that a path lies in, if it has one. -/
def parent? (p : Path) : Option Path :=
  match p.components.getLast? with
  | none | some .root => none
  | some _ =>
    let (first, rest) := start p.text
    let body := dropIdleEnd rest
    if body = [] then some ⟨[]⟩
    else
      let above := dropIdleEnd (body.reverse.dropWhile (· ≠ '/')).reverse
      some ⟨p.text.take first.toList.length ++ above⟩

/-- The last component, if it is a name. -/
def fileName? (p : Path) : Option Text :=
  match p.components.getLast? with
  | some (.name s) => some s
  | _ => none

/-- The parts of a file name before and after its last dot. A dot at the start of a name does not
count. -/
def splitName? (name : Text) : Option (Text × Text) :=
  match Text.splitFirst? '.' name.reverse with
  | some (_, []) | none => none
  | some (after, before) => some (before.reverse, after.reverse)

/-- The part of the file name after its last dot. -/
def extension? (p : Path) : Option Text :=
  p.fileName?.bind fun name => (splitName? name).map Prod.snd

/-- The file name without its extension. -/
def stem? (p : Path) : Option Text :=
  p.fileName?.map fun name => (splitName? name).elim name Prod.fst

end Path

end Stencil
