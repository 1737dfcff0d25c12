/-!
# The calendar

Days of the proleptic Gregorian calendar, counted from 1 January 1970. A date that exists is a year,
a month and a day of that month; `dayNumber` counts it, and `Date.ofDayNumber` finds it again.
-/

namespace Fleet

/-- Whether a year has a 29 February. -/
def isLeapYear (year : Int) : Bool :=
  year % 4 = 0 && (year % 100 ≠ 0 || year % 400 = 0)

/-- How many days a month has. -/
def daysInMonth (year : Int) (month : Nat) : Nat :=
  if month = 2 then if isLeapYear year then 29 else 28
  else if month = 4 ∨ month = 6 ∨ month = 9 ∨ month = 11 then 30
  else 31

/-- Days in the months of a year before the given one. -/
def daysBeforeMonth (year : Int) : Nat → Nat
  | 0 => 0
  | 1 => 0
  | month + 1 => daysBeforeMonth year month + daysInMonth year month

/-- Days from 1 January of the year 0 to 1 January of `year`. -/
def daysBeforeYear (year : Int) : Int :=
  let past := year - 1
  365 * year + past / 4 - past / 100 + past / 400 + 1

/-- 1 January 1970, counted from 1 January of the year 0. -/
def epochDay : Int := 719528

/-- A day of the calendar. -/
structure Date where
  year : Int
  month : Nat
  day : Nat
deriving DecidableEq, Repr

namespace Date

/-- Whether the calendar has the day. -/
def exists? (date : Date) : Bool :=
  1 ≤ date.month && date.month ≤ 12 && 1 ≤ date.day && date.day ≤ daysInMonth date.year date.month

/-- Days from 1 January 1970 to the date, negative before it. -/
def dayNumber (date : Date) : Int :=
  daysBeforeYear date.year + daysBeforeMonth date.year date.month + (date.day - 1 : Int) - epochDay

/-- The year that holds a day counted from 1 January of the year 0: the mean length of a year leads to
it or to one of its neighbours. -/
def yearOf (day : Int) : Int :=
  let guess := day * 400 / 146097
  if day < daysBeforeYear guess then guess - 1
  else if daysBeforeYear (guess + 1) ≤ day then guess + 1
  else guess

/-- The month, at most `month`, that holds a day of the year counted from zero. -/
def monthOf (year : Int) (day : Nat) : Nat → Nat
  | 0 => 1
  | 1 => 1
  | month + 1 => if daysBeforeMonth year (month + 1) ≤ day then month + 1 else monthOf year day month

/-- The date of a day counted from 1 January 1970. -/
def ofDayNumber (number : Int) : Date :=
  let day := number + epochDay
  let year := yearOf day
  let ofYear := (day - daysBeforeYear year).toNat
  let month := monthOf year ofYear 12
  ⟨year, month, ofYear - daysBeforeMonth year month + 1⟩

end Date

end Fleet
