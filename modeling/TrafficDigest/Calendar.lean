import TrafficDigest.Sum

/-!
# The calendar

Dates of the proleptic Gregorian calendar and their day numbers, counted from 1970-01-01.  A date
is a year, a month and a day; `Date.Exists` says which of them name a day, `Date.dayNumber` orders
them along a line, and `Date.ofDayNumber` goes back.
-/

namespace TrafficDigest

/-- A year, a month and a day, whether or not the calendar has that day. -/
structure Date where
  /-- The astronomical year: 0 is the year before 1. -/
  year : Int
  /-- 1 to 12 in a date that exists. -/
  month : Nat
  /-- From 1 in a date that exists. -/
  day : Nat
  deriving DecidableEq, Repr

namespace Date

/-! ## Lengths of months -/

/-- Every fourth year, without the centuries, but with every fourth century. -/
def isLeapYear (year : Int) : Bool :=
  year % 4 == 0 && (year % 100 != 0 || year % 400 == 0)

/-- The lengths of the twelve months. -/
def monthLengths (leap : Bool) : List Nat :=
  [31, if leap then 29 else 28, 31, 30, 31, 30, 31, 31, 30, 31, 30, 31]

/-- The length of a month; zero for a month that is none. -/
def daysInMonth (year : Int) (month : Nat) : Nat :=
  match month with
  | 0 => 0
  | m + 1 => (monthLengths (isLeapYear year)).getD m 0

/-- The calendar has this day. -/
def Exists (d : Date) : Prop :=
  1 ≤ d.month ∧ d.month ≤ 12 ∧ 1 ≤ d.day ∧ d.day ≤ daysInMonth d.year d.month

instance (d : Date) : Decidable d.Exists := by unfold Exists; infer_instance

/-! ## Day numbers -/

/-- Days from the first of January of year 1 to the first of January of `year`. -/
def daysBeforeYear (year : Int) : Int :=
  let y := year - 1
  365 * y + y / 4 - y / 100 + y / 400

/-- Days from the first of January to the first of the month. -/
def daysBeforeMonth (leap : Bool) (month : Nat) : Nat :=
  sumOf id ((monthLengths leap).take (month - 1))

/-- Days from 0001-01-01 to 1970-01-01. -/
def epochDays : Int := 719162

/-- **The day number:** days since 1970-01-01, negative before it. -/
def dayNumber (d : Date) : Int :=
  daysBeforeYear d.year + daysBeforeMonth (isLeapYear d.year) d.month + (d.day - 1 : Int) -
    epochDays

/-- The year and the day of the year (from zero) of a count of days since 0001-01-01.  The last
day of a cycle of 400 or 4 years would open one more century or year, hence the two minima. -/
def yearAndDay (days : Int) : Int × Nat :=
  let inCycle := (days % 146097).toNat
  let century := min (inCycle / 36524) 3
  let inCentury := inCycle - century * 36524
  let quad := inCentury / 1461
  let inQuad := inCentury % 1461
  let odd := min (inQuad / 365) 3
  (400 * (days / 146097) + 100 * century + 4 * quad + odd + 1, inQuad - odd * 365)

/-- The month and the day of the month of a day of the year (from zero), by walking the months
that are left, the first of them numbered `month`. -/
def monthAndDay (month : Nat) : List Nat → Nat → Nat × Nat
  | [], dayOfYear => (month, dayOfYear + 1)
  | length :: rest, dayOfYear =>
    if dayOfYear < length then (month, dayOfYear + 1)
    else monthAndDay (month + 1) rest (dayOfYear - length)

/-- The date with a given day number. -/
def ofDayNumber (n : Int) : Date :=
  let (year, dayOfYear) := yearAndDay (n + epochDays)
  let (month, day) := monthAndDay 1 (monthLengths (isLeapYear year)) dayOfYear
  ⟨year, month, day⟩

/-! ## The years that instants reach -/

/-- The first year of an instant. -/
def minYear : Int := -262143

/-- The last year of an instant. -/
def maxYear : Int := 262142

/-- A date that exists and lies in the years that instants reach. -/
def ofFields? (year : Int) (month day : Nat) : Option Date :=
  let d : Date := ⟨year, month, day⟩
  if minYear ≤ year ∧ year ≤ maxYear ∧ d.Exists then some d else none

end Date

end TrafficDigest
