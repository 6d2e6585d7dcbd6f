/-!
# Dates

Days are numbered from 1 January 1970 in the proleptic Gregorian calendar. The years are counted in
cycles of 400, each of 146097 days, and within a cycle from 1 March, so that the leap day is the
last day of its year.
-/

namespace Stencil

/-- A date of the proleptic Gregorian calendar. -/
structure Date where
  year : Int
  month : Nat
  day : Nat
  deriving DecidableEq, Repr

namespace Date

/-- Every fourth year is a leap year, but of the full centuries only every fourth. -/
def isLeapYear (year : Int) : Bool :=
  year % 4 = 0 && (year % 100 ≠ 0 || year % 400 = 0)

/-- The number of days of a month. -/
def daysInMonth (year : Int) (month : Nat) : Nat :=
  if month = 2 then if isLeapYear year then 29 else 28
  else if month = 4 ∨ month = 6 ∨ month = 9 ∨ month = 11 then 30
  else 31

/-- Whether the calendar has the date. -/
def isValid (d : Date) : Bool :=
  1 ≤ d.month && d.month ≤ 12 && 1 ≤ d.day && d.day ≤ daysInMonth d.year d.month

/-- The number of a date's day. -/
def toDay (d : Date) : Int :=
  let year := if d.month ≤ 2 then d.year - 1 else d.year
  let month := if d.month ≤ 2 then d.month + 9 else d.month - 3
  -- From March on, five months in a row have 153 days.
  let ofYear : Int := (153 * month + 2) / 5 + d.day - 1
  365 * year + year / 4 - year / 100 + year / 400 + ofYear - 719468

/-- The date of a day. -/
def ofDay (n : Int) : Date :=
  let n := n + 719468
  let cycle := n / 146097
  let ofCycle := (n % 146097).toNat
  let years := (ofCycle - ofCycle / 1460 + ofCycle / 36524 - ofCycle / 146096) / 365
  let ofYear := ofCycle - (365 * years + years / 4 - years / 100)
  let month := (5 * ofYear + 2) / 153
  let day := ofYear - (153 * month + 2) / 5 + 1
  if month < 10 then ⟨cycle * 400 + years, month + 3, day⟩
  else ⟨cycle * 400 + years + 1, month - 9, day⟩

/-- The number of the date in its year, from 1. -/
def ordinal (d : Date) : Nat :=
  (d.toDay - toDay ⟨d.year, 1, 1⟩).toNat + 1

/-- The days since the last Monday, or since today if it is one. -/
def daysSinceMonday (d : Date) : Nat :=
  ((d.toDay + 3) % 7).toNat

/-- The days since the last Sunday, or since today if it is one. -/
def daysSinceSunday (d : Date) : Nat :=
  ((d.toDay + 4) % 7).toNat

/-- The number of the week in its year when weeks begin on a day of the week, of which the days
since are given; days before the first such day are in week 0. -/
def weekOfYear (d : Date) (daysSince : Nat) : Nat :=
  (d.ordinal + 6 - daysSince) / 7

/-- The year and the number of the week in which the date lies when weeks begin on Monday and belong
to the year that holds their Thursday. -/
def isoWeek (d : Date) : Int × Nat :=
  let thursday := ofDay (d.toDay + 3 - d.daysSinceMonday)
  (thursday.year, (thursday.ordinal - 1) / 7 + 1)

end Date

end Stencil
