import Stencil.Calendar.Date
import Stencil.Text.Basic

/-!
# Moments

A moment is a point of UTC, given by its day, the second of the day and a fraction of a second. In a
leap second, the fraction goes on beyond one second.

A moment is written and read in the form of RFC 3339. The reader is strict: four digits for the
year, two for every other field, a `T`, a `t` or a blank between date and time, an optional
fraction, and `Z`, `z` or an offset of hours and minutes with a colon.
-/

namespace Stencil

/-- A point of UTC. -/
structure Moment where
  /-- The days since 1 January 1970. -/
  day : Int
  /-- The second of the day, below 86400. -/
  second : Nat
  /-- The fraction in nanoseconds, below two seconds. -/
  nanos : Nat
  deriving DecidableEq, Repr

namespace Moment

/-- The date of a moment. -/
def date (m : Moment) : Date :=
  Date.ofDay m.day

/-! ## Reading -/

/-- Reads a number of exactly `width` digits, which is added to `value` as its lower digits. -/
def digits (width value : Nat) (s : Text) : Option (Nat × Text) :=
  match width, s with
  | 0, s => some (value, s)
  | _ + 1, [] => none
  | width + 1, c :: s =>
    if c.isDigit then digits width (value * 10 + (c.toNat - '0'.toNat)) s else none

/-- Reads one of several characters. -/
def mark (allowed : Text) : Text → Option Text
  | [] => none
  | c :: s => if c ∈ allowed then some s else none

/-- Reads an optional fraction of a second. Digits behind the ninth are passed over. -/
def fraction (s : Text) : Option (Nat × Text) :=
  match s with
  | '.' :: s =>
    let ds := s.takeWhile Char.isDigit
    if ds.isEmpty then none
    else
      let nine := (ds ++ List.replicate 9 '0').take 9
      (digits 9 0 nine).map fun (n, _) => (n, s.dropWhile Char.isDigit)
  | s => some (0, s)

/-- Reads an offset from UTC, in minutes. -/
def offset : Text → Option (Int × Text)
  | [] => none
  | c :: s =>
    if c = 'Z' ∨ c = 'z' then some (0, s)
    else do
      let sign : Int ←
        if c = '+' then some 1 else if c = '-' ∨ c = '\u2212' then some (-1) else none
      let (hours, s) ← digits 2 0 s
      let s ← mark [':'] s
      let (minutes, s) ← digits 2 0 s
      if 23 < hours ∨ 59 < minutes then none else some (sign * (hours * 60 + minutes), s)

/-- Reads a moment. -/
def parse? (s : Text) : Option Moment := do
  let (year, s) ← digits 4 0 s
  let s ← mark ['-'] s
  let (month, s) ← digits 2 0 s
  let s ← mark ['-'] s
  let (day, s) ← digits 2 0 s
  let s ← mark ['T', 't', ' '] s
  let (hour, s) ← digits 2 0 s
  let s ← mark [':'] s
  let (minute, s) ← digits 2 0 s
  let s ← mark [':'] s
  let (second, s) ← digits 2 0 s
  let (nanos, s) ← fraction s
  let (minutes, s) ← offset s
  let date : Date := ⟨year, month, day⟩
  if !date.isValid || 23 < hour || 59 < minute || 60 < second || !s.isEmpty then none
  else
    let leap := second = 60
    let wall : Int := hour * 3600 + minute * 60 + (if leap then 59 else second : Nat)
    let utc := wall - minutes * 60
    some ⟨date.toDay + utc / 86400, (utc % 86400).toNat, if leap then nanos + 1000000000 else nanos⟩

/-! ## Writing -/

/-- The second of the minute; a leap second is number 60. -/
def secondOfMinute (m : Moment) : Nat :=
  m.second % 60 + m.nanos / 1000000000

/-- The nanoseconds of the second. -/
def nanosOfSecond (m : Moment) : Nat :=
  m.nanos % 1000000000

/-- The digits of a year: four of them, or a sign and at least four beyond the years 0 to 9999. -/
def yearText (year : Int) : Text :=
  if 0 ≤ year ∧ year ≤ 9999 then Text.ofNatPadded 4 year.toNat
  else (if year < 0 then '-' else '+') :: Text.ofNatPadded 4 year.natAbs

/-- The fraction of a second with the fewest of 0, 3, 6 and 9 digits that show it in full. -/
def fractionText (m : Moment) : Text :=
  let n := m.nanosOfSecond
  if n = 0 then []
  else if n % 1000000 = 0 then '.' :: Text.ofNatPadded 3 (n / 1000000)
  else if n % 1000 = 0 then '.' :: Text.ofNatPadded 6 (n / 1000)
  else '.' :: Text.ofNatPadded 9 n

/-- Writes a moment. -/
def toText (m : Moment) : Text :=
  let d := m.date
  let two := Text.ofNatPadded 2
  yearText d.year ++ '-' :: two d.month ++ '-' :: two d.day ++ 'T' :: two (m.second / 3600)
    ++ ':' :: two (m.second / 60 % 60) ++ ':' :: two m.secondOfMinute ++ m.fractionText
    ++ "+00:00".toList

end Moment

end Stencil
