import Stencil.Text.Basic

/-!
# Glob patterns

A pattern is a sequence of parts: literal characters, `?`, `*`, `**` between slashes, classes such
as `[a-z]` or `[!a]`, and groups such as `{a,b}`. A backslash makes the next character literal.

Two stars are recursive where they fill the stretch between slashes or stand alone in the branch of
a group; elsewhere they are two single stars. A recursive part takes the slash before it along,
which has been read as a literal, so that `a/**/b` also matches `a/b`.
-/

namespace Stencil.Glob

/-- A part of a pattern. -/
inductive Part
  | literal (c : Char)
  /-- `?`: one byte. -/
  | one
  /-- `*`: any bytes. -/
  | many
  /-- `**` at the start: nothing, or anything up to a slash. -/
  | leading
  /-- `**` at the end: a slash and anything. -/
  | trailing
  /-- `**` in the middle: a slash, or anything between two slashes. -/
  | between
  /-- `[…]`: one byte that is, or is not, among the ranges. -/
  | oneOf (negated : Bool) (ranges : List (Char × Char))
  /-- `{…}`: one of several sequences. -/
  | group (branches : List (List Part))

/-- Why a text is no pattern. -/
inductive Fault
  | unclosedClass
  | invalidRange (low high : Char)
  | unopenedGroup
  | unclosedGroup
  | danglingEscape
  deriving DecidableEq, Repr

/-- The text that a user is shown. -/
def Fault.message : Fault → Text
  | unclosedClass => "unclosed character class; missing ']'".toList
  | invalidRange low high =>
    "invalid range; '".toList ++ [low] ++ "' > '".toList ++ [high] ++ "'".toList
  | unopenedGroup =>
    "unopened alternate group; missing '\x7b' (maybe escape '\x7d' with '[\x7d]'?)".toList
  | unclosedGroup =>
    "unclosed alternate group; missing '\x7d' (maybe escape '\x7b' with '[\x7b]'?)".toList
  | danglingEscape => "dangling '\\'".toList

/-! ## What has been read -/

/-- A group that is being read: the parts before it and the branches that are complete, the last one
first in each. -/
structure OpenGroup where
  before : List Part
  branches : List (List Part)

/-- What has been read of a pattern: the parts of the branch that is being read, the last one first,
and the groups around it, the innermost first. -/
structure Reading where
  parts : List Part := []
  groups : List OpenGroup := []

namespace Reading

/-- Adds a part. -/
def push (r : Reading) (p : Part) : Reading :=
  { r with parts := p :: r.parts }

/-- Puts a recursive part in the place of the part read last, unless that one is recursive. -/
def pushRecursive (r : Reading) (p : Part) : Reading :=
  match r.parts with
  | .leading :: _ | .trailing :: _ => r
  | _ :: rest => { r with parts := p :: rest }
  | [] => { r with parts := [p] }

/-- Begins a group. -/
def beginGroup (r : Reading) : Reading :=
  ⟨[], ⟨r.parts, []⟩ :: r.groups⟩

/-- Reads a comma, which begins the next branch inside a group. -/
def comma (r : Reading) : Reading :=
  match r.groups with
  | [] => r.push (.literal ',')
  | g :: rest => ⟨[], { g with branches := r.parts.reverse :: g.branches } :: rest⟩

/-- Ends a group. -/
def endGroup (r : Reading) : Except Fault Reading :=
  match r.groups with
  | [] => .error .unopenedGroup
  | g :: rest => .ok ⟨.group (r.parts.reverse :: g.branches).reverse :: g.before, rest⟩

/-- Reads two stars between `previous` and `rest`. The flag tells that the slash after them belongs
to them. -/
def stars (r : Reading) (previous : Option Char) (rest : Text) : Reading × Bool :=
  let plain := ((r.push .many).push .many, false)
  match r.parts, rest with
  | [], [] => (r.push .leading, false)
  | [], '/' :: _ => (r.push .leading, true)
  | [], _ => plain
  | _ :: _, _ =>
    -- The part read last is the slash that a recursive part takes along.
    let beginsBranch := !r.groups.isEmpty && (previous = some ',' || previous = some '\x7b')
    if previous ≠ some '/' ∧ !beginsBranch then plain
    else
      match rest with
      | [] => (r.pushRecursive .trailing, false)
      | c :: _ =>
        if (c = ',' ∨ c = '\x7d') ∧ !r.groups.isEmpty then (r.pushRecursive .trailing, false)
        else if c = '/' then (r.pushRecursive .between, true)
        else plain

end Reading

/-! ## Classes -/

/-- Reads the rest of a class, and returns its ranges and what follows its bracket. `first` tells
that nothing has been read yet, and `dash` that a range is open. The ranges read last come first. -/
def classRanges (first dash : Bool) (ranges : List (Char × Char)) :
    Text → Except Fault (List (Char × Char) × Text)
  | [] => .error .unclosedClass
  | c :: s =>
    if c = ']' ∧ !first then .ok ((if dash then ('-', '-') :: ranges else ranges).reverse, s)
    else if c = '-' ∧ !first ∧ !dash then classRanges false true ranges s
    else
      match dash, ranges with
      | true, (low, _) :: done =>
        if c.toNat < low.toNat then .error (.invalidRange low c)
        else classRanges false false ((low, c) :: done) s
      | _, _ => classRanges false false ((c, c) :: ranges) s

/-- What follows a class is shorter than the class and what follows. -/
theorem length_classRanges_lt {first dash : Bool} {ranges result : List (Char × Char)}
    {s rest : Text} (h : classRanges first dash ranges s = .ok (result, rest)) :
    rest.length < s.length := by
  fun_induction classRanges first dash ranges s <;> simp_all <;> omega

/-- Whether a class begins with the mark of negation. -/
def isNegated (s : Text) : Bool :=
  s.head? = some '!' || s.head? = some '^'

/-- A class without the mark of negation. -/
def classBody (s : Text) : Text :=
  if isNegated s then s.drop 1 else s

/-- A class is no longer without its mark of negation. -/
theorem length_classBody_le (s : Text) : (classBody s).length ≤ s.length := by
  unfold classBody
  split <;> simp

/-! ## Patterns -/

/-- Reads the rest of a pattern behind `previous`. -/
def read (r : Reading) (previous : Option Char) (s : Text) : Except Fault Reading :=
  match s with
  | [] => .ok r
  | '*' :: '*' :: rest =>
    let (r, slash) := r.stars previous rest
    match rest with
    | c :: after => if slash then read r (some '/') after else read r (some '*') (c :: after)
    | [] => .ok r
  | '\\' :: rest =>
    match rest with
    | [] => .error .danglingEscape
    | c :: rest => read (r.push (.literal c)) (some c) rest
  | '[' :: rest =>
    match h : classRanges true false [] (classBody rest) with
    | .error e => .error e
    | .ok (ranges, after) =>
      have := length_classRanges_lt h
      have := length_classBody_le rest
      read (r.push (.oneOf (isNegated rest) ranges)) (some ']') after
  | c :: rest =>
    if c = '?' then read (r.push .one) (some c) rest
    else if c = '*' then read (r.push .many) (some c) rest
    else if c = '\x7b' then read r.beginGroup (some c) rest
    else if c = '\x7d' then
      match r.endGroup with
      | .ok r => read r (some c) rest
      | .error e => .error e
    else if c = ',' then read r.comma (some c) rest
    else read (r.push (.literal c)) (some c) rest
termination_by s.length

/-- The parts of a pattern. -/
def parse (s : Text) : Except Fault (List Part) :=
  match read {} none s with
  | .error e => .error e
  | .ok r => if r.groups.isEmpty then .ok r.parts.reverse else .error .unclosedGroup

end Stencil.Glob
