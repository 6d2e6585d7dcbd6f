import Stencil.Glob.Pattern
import Stencil.Text.Utf8

/-!
# Glob matching

A pattern is matched against the bytes of a path. `Part.rests` lists what can be left of a byte
sequence when a part has taken its share from the front; a pattern matches if it can leave nothing.
With the flag `within`, `?` and `*` stay within one stretch between slashes.
-/

namespace Stencil.Glob

/-- The byte of a slash. -/
def slash : UInt8 := 0x2f

/-- The sequence and what is left of it after one byte, two bytes, … for as long as the bytes taken
satisfy `p`. -/
def tailsWhile (p : UInt8 → Bool) : List UInt8 → List (List UInt8)
  | [] => [[]]
  | b :: s => (b :: s) :: if p b then tailsWhile p s else []

/-- What is left of a sequence behind each of its slashes. -/
def afterSlashes : List UInt8 → List (List UInt8)
  | [] => []
  | b :: s => if b = slash then s :: afterSlashes s else afterSlashes s

/-! ## Classes -/

/-- The ranges of bytes that a range of characters stands for. A character of several bytes stands
for each of them, and the range runs from the last byte of its lower end to the first byte of its
upper end. -/
def byteRanges (low high : Char) : List (UInt8 × UInt8) :=
  let a := String.utf8EncodeChar low
  let b := String.utf8EncodeChar high
  if low = high then a.map fun x => (x, x)
  else
    a.dropLast.map (fun x => (x, x)) ++ [(a.getLast?.getD 0, b.head?.getD 0)]
      ++ (b.drop 1).map fun x => (x, x)

/-! ## Silent parts -/

mutual

/-- Whether a part matches only the empty sequence: a group in which every branch does. -/
def Part.isSilent : Part → Bool
  | .group branches => branchesSilent branches
  | _ => false

/-- Whether every part of a sequence is silent. -/
def partsSilent : List Part → Bool
  | [] => true
  | p :: rest => p.isSilent && partsSilent rest

/-- Whether every branch of a group is silent. -/
def branchesSilent : List (List Part) → Bool
  | [] => true
  | b :: rest => partsSilent b && branchesSilent rest

end

/-! ## Matching -/

mutual

/-- What can be left when a part has taken its share. Silent branches of a group are left out,
unless all of them are silent. -/
def Part.rests (within : Bool) : Part → List UInt8 → List (List UInt8)
  | .literal c, s =>
    let bytes := String.utf8EncodeChar c
    if bytes.isPrefixOf s then [s.drop bytes.length] else []
  | .one, s =>
    match s with
    | [] => []
    | b :: s => if within && b = slash then [] else [s]
  | .many, s => tailsWhile (fun b => !(within && b = slash)) s
  | .leading, s =>
    s :: (if s.head? = some slash then [s.drop 1] else []) ++ afterSlashes s
  | .trailing, s =>
    if s.head? = some slash then tailsWhile (fun _ => true) (s.drop 1) else []
  | .between, s => if s.head? = some slash then s.drop 1 :: afterSlashes (s.drop 1) else []
  | .oneOf negated ranges, s =>
    match s with
    | [] => []
    | b :: s =>
      let inside := ranges.any fun (low, high) =>
        (byteRanges low high).any fun (x, y) => x ≤ b && b ≤ y
      if inside != negated then [s] else []
  | .group branches, s =>
    -- A group without a branch that takes anything takes nothing.
    if branchesSilent branches then [s] else branchRests within branches s

/-- What can be left when a sequence of parts has taken its share of one of several sequences. -/
def partsRests (within : Bool) : List Part → List (List UInt8) → List (List UInt8)
  | [], ss => ss
  | p :: rest, ss => partsRests within rest (ss.flatMap (p.rests within)).eraseDups

/-- What can be left when some branch of a group has taken its share. -/
def branchRests (within : Bool) : List (List Part) → List UInt8 → List (List UInt8)
  | [], _ => []
  | b :: rest, s =>
    (if partsSilent b then [] else partsRests within b [s]) ++ branchRests within rest s

end

/-- Whether a pattern matches a whole text. Two stars alone match everything. -/
def isMatch (within : Bool) (parts : List Part) (s : Text) : Bool :=
  match parts with
  | [.leading] => true
  | _ => (partsRests within parts [Utf8.encode s]).any List.isEmpty

end Stencil.Glob
