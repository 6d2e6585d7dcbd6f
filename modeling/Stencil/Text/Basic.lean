/-!
# Text

Text is a list of characters. Positions that are shown to a user count bytes of the UTF-8 form, so
the module gives the byte length beside the few list operations that every other module needs:
looking for one text inside another, cutting a text at a mark, and joining pieces.

Functions that run over whole documents are written with an accumulator, so that a document of any
length is read in constant stack space.
-/

namespace Stencil

/-- A sequence of Unicode scalar values. -/
abbrev Text := List Char

namespace Text

/-- The number of bytes of the UTF-8 form. -/
def byteLength (s : Text) : Nat :=
  s.foldr (fun c n => c.utf8Size + n) 0

/-- The decimal digits of a number. -/
def ofNat (n : Nat) : Text :=
  Nat.toDigits 10 n

/-- A number in decimal, filled with zeros on the left up to the given width. -/
def ofNatPadded (width n : Nat) : Text :=
  List.leftpad width '0' (ofNat n)

/-- The number that decimal digits denote. -/
def digitsValue (ds : Text) : Nat :=
  ds.foldl (fun n c => n * 10 + (c.toNat - '0'.toNat)) 0

/-- The text after `mark`, if the text begins with it. -/
def dropMark? : (mark : Text) → Text → Option Text
  | [], s => some s
  | _ :: _, [] => none
  | m :: mark, c :: s => if m = c then dropMark? mark s else none

/-- Whether `mark` occurs somewhere in the text. -/
def contains (mark : Text) : Text → Bool
  | [] => mark.isEmpty
  | c :: s => mark.isPrefixOf (c :: s) || contains mark s

/-- The pieces between the occurrences of a separator character; one piece more than there are
separators. -/
def splitOn (sep : Char) (s : Text) : List Text :=
  go [] [] s
where
  go (done : List Text) (piece : Text) : Text → List Text
    | [] => (piece.reverse :: done).reverse
    | c :: s => if c = sep then go (piece.reverse :: done) [] s else go done (c :: piece) s

/-- The texts in order with a separator between each two. -/
def join (sep : Text) (pieces : List Text) : Text :=
  (pieces.intersperse sep).flatten

/-- The parts before and after the first occurrence of a character. -/
def splitFirst? (sep : Char) (s : Text) : Option (Text × Text) :=
  match s.dropWhile (· ≠ sep) with
  | [] => none
  | _ :: rest => some (s.takeWhile (· ≠ sep), rest)

/-- Code point order on texts, which is also the byte order of their UTF-8 forms. -/
def le : Text → Text → Bool
  | [], _ => true
  | _ :: _, [] => false
  | a :: s, b :: t => if a = b then le s t else a.toNat < b.toNat

/-! ## Lemmas -/

@[simp] theorem byteLength_nil : byteLength [] = 0 := rfl

@[simp] theorem byteLength_cons (c : Char) (s : Text) :
    byteLength (c :: s) = c.utf8Size + byteLength s := rfl

@[simp] theorem byteLength_append (s t : Text) :
    byteLength (s ++ t) = byteLength s + byteLength t := by
  induction s with
  | nil => exact (Nat.zero_add _).symm
  | cons c s ih => rw [List.cons_append, byteLength_cons, byteLength_cons, ih, Nat.add_assoc]

/-- A text begins with `mark` exactly if it is `mark` and then what `dropMark?` returns. -/
theorem dropMark?_eq_some_iff {mark s rest : Text} :
    dropMark? mark s = some rest ↔ s = mark ++ rest := by
  fun_induction dropMark? mark s with
  | case1 s => simp
  | case2 => simp
  | case3 mark c s ih => simp [ih]
  | case4 m mark c s h =>
    simp only [reduceCtorEq, List.cons_append, List.cons.injEq, false_iff, not_and]
    exact fun e => absurd e.symm h

/-- Nothing is dropped exactly if the text does not begin with `mark`. -/
theorem dropMark?_eq_none_iff {mark s : Text} : dropMark? mark s = none ↔ ¬ mark <+: s := by
  constructor
  · rintro h ⟨rest, hrest⟩
    cases h.symm.trans (dropMark?_eq_some_iff.2 hrest.symm)
  · intro h
    cases hs : dropMark? mark s with
    | none => rfl
    | some rest => exact absurd ⟨rest, (dropMark?_eq_some_iff.1 hs).symm⟩ h

end Text

/-- Membership in a list of closed ranges that are in ascending order. -/
def inRanges : List (Nat × Nat) → Nat → Bool
  | [], _ => false
  | (low, high) :: rest, n => if n < low then false else n ≤ high || inRanges rest n

end Stencil
