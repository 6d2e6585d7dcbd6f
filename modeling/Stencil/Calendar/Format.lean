import Stencil.Calendar.Moment

/-!
# Time formats

A time format is text with fields, each a percent sign and a letter. A field may have a sign of
padding behind its percent sign: `-` for none, `0` for zeros and `_` for blanks; fields of several
parts and fields that are words allow none. A format with an unknown field has no meaning.
-/

namespace Stencil.Calendar

/-! ## Fields and their texts -/

/-- How a number is filled up to its width. -/
inductive Padding
  | none
  | zeros
  | blanks
  deriving DecidableEq, Repr

/-- A number that fills up to a width, with its usual padding. -/
structure Number where
  width : Nat
  padding : Padding
  value : Nat

/-- What a field shows. -/
inductive Field
  /-- A number whose padding can be chosen. -/
  | number (n : Number)
  /-- A year, which has a sign beyond the years 0 to 9999. -/
  | year (n : Int)
  /-- The number of a century, which is kept in one byte. -/
  | century (n : UInt8)
  /-- A number of seconds that may be negative. -/
  | count (n : Int)
  /-- Text whose padding cannot be chosen. -/
  | words (s : Text)

/-- The names of the days of the week, from Monday. -/
def dayNames : List String :=
  ["Monday", "Tuesday", "Wednesday", "Thursday", "Friday", "Saturday", "Sunday"]

/-- The names of the months. -/
def monthNames : List String :=
  ["January", "February", "March", "April", "May", "June", "July", "August", "September",
    "October", "November", "December"]

/-- A number with leading zeros or blanks up to a width. -/
def fill (padding : Padding) (width n : Nat) : Text :=
  match padding with
  | .none => Text.ofNat n
  | .zeros => Text.ofNatPadded width n
  | .blanks => List.leftpad width ' ' (Text.ofNat n)

/-- A number with a sign, its padding between sign and digits or, if it is blank, before both. -/
def fillSigned (padding : Padding) (width : Nat) (showPlus : Bool) (n : Int) : Text :=
  let sign : Text := if n < 0 then ['-'] else if showPlus then ['+'] else []
  match padding with
  | .none => sign ++ Text.ofNat n.natAbs
  | .zeros => sign ++ Text.ofNatPadded (width - sign.length) n.natAbs
  | .blanks => List.leftpad width ' ' (sign ++ Text.ofNat n.natAbs)

/-- A number in two places. Tens beyond nine are the characters behind the digits. -/
def pair (padding : Padding) (n : Nat) : Text :=
  if n < 100 then fill padding 2 n
  else [Char.ofNat ('0'.toNat + n / 10), Nat.digitChar (n % 10)]

/-- The text of a field with a padding of its own or the usual one. -/
def Field.text (padding : Option Padding) : Field → Option Text
  | .number n => some (fill (padding.getD n.padding) n.width n.value)
  | .year n =>
    let signed := decide (n < 0 ∨ 9999 < n)
    some (fillSigned (padding.getD .zeros) (if signed then 5 else 4) signed n)
  | .century n => some (pair (padding.getD .zeros) n.toNat)
  | .count n => some (fillSigned (padding.getD .none) 9 false n)
  | .words s => if padding.isSome then none else some s

/-! ## The fields of a moment -/

variable (m : Moment)

/-- The hour on a twelve-hour clock. -/
def hour12 : Nat :=
  let h := m.second / 3600 % 12
  if h = 0 then 12 else h

/-- The name of the moment's day of the week. -/
def dayName : Text :=
  ((dayNames[m.date.daysSinceMonday]?).getD "").toList

/-- The name of the moment's month. -/
def monthName : Text :=
  ((monthNames[m.date.month - 1]?).getD "").toList

/-- Two digits. -/
def two (n : Nat) : Text :=
  Text.ofNatPadded 2 n

/-- Hours, minutes and seconds. -/
def clock : Text :=
  two (m.second / 3600) ++ ':' :: two (m.second / 60 % 60) ++ ':' :: two m.secondOfMinute

/-- Month, day and year of the century. -/
def slashedDate : Text :=
  two m.date.month ++ '/' :: two m.date.day ++ '/' :: two (m.date.year % 100).toNat

/-- The field that a letter stands for. -/
def field? (letter : Char) : Option Field :=
  let d := m.date
  let zeros (width n : Nat) : Option Field := some (.number ⟨width, .zeros, n⟩)
  let blanks (width n : Nat) : Option Field := some (.number ⟨width, .blanks, n⟩)
  let bare (n : Nat) : Option Field := some (.number ⟨1, .none, n⟩)
  let words (s : Text) : Option Field := some (.words s)
  let hour := m.second / 3600
  match letter with
  | 'A' => words (dayName m)
  | 'B' => words (monthName m)
  | 'C' => some (.century (UInt8.ofInt (d.year / 100)))
  | 'D' | 'x' => words (slashedDate m)
  | 'F' => words (Moment.yearText d.year ++ '-' :: two d.month ++ '-' :: two d.day)
  | 'G' => some (.year d.isoWeek.1)
  | 'H' => zeros 2 hour
  | 'I' => zeros 2 (hour12 m)
  | 'M' => zeros 2 (m.second / 60 % 60)
  | 'P' => words (if hour < 12 then "am" else "pm").toList
  | 'R' => words (two hour ++ ':' :: two (m.second / 60 % 60))
  | 'S' => zeros 2 m.secondOfMinute
  | 'T' | 'X' => words (clock m)
  | 'U' => zeros 2 (d.weekOfYear d.daysSinceSunday)
  | 'V' => zeros 2 d.isoWeek.2
  | 'W' => zeros 2 (d.weekOfYear d.daysSinceMonday)
  | 'Y' => some (.year d.year)
  | 'Z' => words "UTC".toList
  | 'a' => words ((dayName m).take 3)
  | 'b' | 'h' => words ((monthName m).take 3)
  | 'c' =>
    words ((dayName m).take 3 ++ ' ' :: (monthName m).take 3 ++ ' ' :: fill .blanks 2 d.day
      ++ ' ' :: clock m ++ ' ' :: Moment.yearText d.year)
  | 'd' => zeros 2 d.day
  | 'e' => blanks 2 d.day
  | 'f' => zeros 9 m.nanosOfSecond
  | 'g' => zeros 2 (d.isoWeek.1 % 100).toNat
  | 'j' => zeros 3 d.ordinal
  | 'k' => blanks 2 hour
  | 'l' => blanks 2 (hour12 m)
  | 'm' => zeros 2 d.month
  | 'n' => words ['\n']
  | 'p' => words (if hour < 12 then "AM" else "PM").toList
  | 'q' => bare ((d.month + 2) / 3)
  | 'r' =>
    words (two (hour12 m) ++ ':' :: two (m.second / 60 % 60) ++ ':' :: two m.secondOfMinute
      ++ (if hour < 12 then " AM" else " PM").toList)
  | 's' => some (.count (m.day * 86400 + m.second))
  | 't' => words ['\t']
  | 'u' => bare (d.daysSinceMonday + 1)
  | 'v' =>
    words (fill .blanks 2 d.day ++ '-' :: (monthName m).take 3 ++ '-' :: Moment.yearText d.year)
  | 'w' => bare d.daysSinceSunday
  | 'y' => zeros 2 (d.year % 100).toNat
  | 'z' => words "+0000".toList
  | '+' => words m.toText
  | '%' => words ['%']
  | _ => none

/-- A field that has more than one letter, and what follows it. -/
def longField? : Text → Option (Text × Text)
  | '.' :: 'f' :: s => some (m.fractionText, s)
  | '.' :: '3' :: 'f' :: s => some ('.' :: Text.ofNatPadded 3 (m.nanosOfSecond / 1000000), s)
  | '.' :: '6' :: 'f' :: s => some ('.' :: Text.ofNatPadded 6 (m.nanosOfSecond / 1000), s)
  | '.' :: '9' :: 'f' :: s => some ('.' :: Text.ofNatPadded 9 m.nanosOfSecond, s)
  | '3' :: 'f' :: s => some (Text.ofNatPadded 3 (m.nanosOfSecond / 1000000), s)
  | '6' :: 'f' :: s => some (Text.ofNatPadded 6 (m.nanosOfSecond / 1000), s)
  | '9' :: 'f' :: s => some (Text.ofNatPadded 9 m.nanosOfSecond, s)
  | ':' :: 'z' :: s => some ("+00:00".toList, s)
  | ':' :: ':' :: 'z' :: s => some ("+00:00:00".toList, s)
  | ':' :: ':' :: ':' :: 'z' :: s => some ("+00".toList, s)
  | _ => none

/-! ## Formats -/

/-- The padding that a sign stands for. -/
def padding? (c : Char) : Option Padding :=
  if c = '-' then some .none
  else if c = '0' then some .zeros
  else if c = '_' then some .blanks
  else none

/-- Writes a moment by a format. `out` holds what has been written, the last character first, and
the number bounds the length of what is left of the format. -/
def formatFrom : Nat → Text → Text → Option Text
  | _, out, [] => some out.reverse
  | 0, _, _ => none
  | bound + 1, out, '%' :: s =>
    -- Fields of several parts allow no padding, so they are tried first.
    match longField? m s with
    | some (shown, s) => formatFrom bound (shown.reverse ++ out) s
    | none =>
      match s with
      | [] => none
      | c :: s =>
        match padding? c, s with
        | some _, [] => none
        | some p, letter :: s =>
          match (field? m letter).bind (Field.text (some p)) with
          | some shown => formatFrom bound (shown.reverse ++ out) s
          | none => none
        | none, s =>
          match (field? m c).bind (Field.text none) with
          | some shown => formatFrom bound (shown.reverse ++ out) s
          | none => none
  | bound + 1, out, c :: s => formatFrom bound (c :: out) s

/-- Writes a moment by a format; `none` if the format has no meaning. -/
def format? (pattern : Text) : Option Text :=
  formatFrom m pattern.length [] pattern

end Stencil.Calendar
