/-!
Days of the proleptic Gregorian calendar. A day is its distance from 1 January 1970; year,
month, day of the month, day of the year, weekday and the three kinds of week are views of
it, and the constructors find the day that given parts name.
-/

namespace QueryFilter
namespace Calendar

/-- Every fourth year has a leap day, but of the full centuries only every fourth. -/
def isLeapYear (year : Int) : Bool :=
  year % 4 = 0 && (year % 100 ≠ 0 || year % 400 = 0)

/-- The distance of the first day of a year from 1 January 1970. -/
def daysBeforeYear (year : Int) : Int :=
  365 * (year - 1) + (year - 1) / 4 - (year - 1) / 100 + (year - 1) / 400 - 719162

/-- The year that a distance in days lies in. The mean length of a year gives a guess that is
wrong by one year at most. -/
def yearAt (days : Int) : Int :=
  let guess := (days + 719162) * 400 / 146097 + 1
  if days < daysBeforeYear guess then guess - 1
  else if daysBeforeYear (guess + 1) ≤ days then guess + 1
  else guess

def monthLengths (leap : Bool) : List Nat :=
  [31, if leap then 29 else 28, 31, 30, 31, 30, 31, 31, 30, 31, 30, 31]

/-- Months passed and days left over after a number of days, for months of given lengths. -/
def splitMonths : List Nat → Nat → Nat × Nat
  | [], days => (0, days)
  | length :: rest, days =>
      if days < length then (0, days)
      else
        let (months, left) := splitMonths rest (days - length)
        (months + 1, left)

def daysInMonths : List Nat → Nat → Nat
  | length :: rest, months + 1 => length + daysInMonths rest months
  | _, _ => 0

def firstYear : Int := -262143
def lastYear : Int := 262142

def firstDay : Int := -96465292
def lastDay : Int := 95026236

/-- A day, as its distance from 1 January 1970. -/
structure Day where
  number : Int
  first_le : firstDay ≤ number
  le_last : number ≤ lastDay
deriving DecidableEq

namespace Day

/-- The day at a distance, unless it lies outside the calendar. -/
def ofNumber? (number : Int) : Option Day :=
  if h : firstDay ≤ number ∧ number ≤ lastDay then some ⟨number, h.1, h.2⟩ else none

def year (d : Day) : Int := yearAt d.number

/-- The day of the year, from one. -/
def dayOfYear (d : Day) : Nat := (d.number - daysBeforeYear d.year).toNat + 1

def sinceNewYear (d : Day) : Nat × Nat :=
  splitMonths (monthLengths (isLeapYear d.year)) (d.dayOfYear - 1)

def month (d : Day) : Nat := d.sinceNewYear.1 + 1

def dayOfMonth (d : Day) : Nat := d.sinceNewYear.2 + 1

def quarter (d : Day) : Nat := (d.month - 1) / 3 + 1

/-- The weekday of a distance in days, Monday being zero. -/
def weekdayAt (days : Int) : Nat := ((days + 3) % 7).toNat

def weekday (d : Day) : Nat := weekdayAt d.number

def weekdayFrom (first : Nat) (weekday : Nat) : Nat := (weekday + 7 - first) % 7

/-- The week of the year, when week one begins with the first such day of the year. -/
def weekFrom (first : Nat) (d : Day) : Nat :=
  (d.dayOfYear + 6 - weekdayFrom first d.weekday) / 7

/-- The Thursday of the week from Monday to Sunday that a distance in days lies in. -/
def thursdayOf (days : Int) : Int := days - weekdayAt days + 3

/-- The year that the week from Monday to Sunday belongs to: the one that holds its Thursday. -/
def isoYearAt (days : Int) : Int := yearAt (thursdayOf days)

def isoYear (d : Day) : Int := isoYearAt d.number

def isoWeek (d : Day) : Nat :=
  ((thursdayOf d.number - daysBeforeYear d.isoYear) / 7).toNat + 1

def ofDayOfYear? (year : Int) (n : Int) : Option Day :=
  if 1 ≤ n ∧ n ≤ (if isLeapYear year then 366 else 365) then
    ofNumber? (daysBeforeYear year + (n - 1))
  else none

def ofDate? (year : Int) (month day : Int) : Option Day :=
  let lengths := monthLengths (isLeapYear year)
  match lengths[(month - 1).toNat]? with
  | none => none
  | some length =>
      if 1 ≤ month ∧ 1 ≤ day ∧ day ≤ length then
        ofNumber? (daysBeforeYear year + daysInMonths lengths (month - 1).toNat + (day - 1))
      else none

/-- The number within its year of a weekday in a week, when week one begins with the first
such day of the year. -/
def dayOfYearInWeek (first : Nat) (year week : Int) (weekday : Nat) : Int :=
  let newYear := weekdayAt (daysBeforeYear year)
  1 + weekdayFrom newYear first + (week - 1) * 7 + weekdayFrom first weekday

def ofIsoWeek? (year week : Int) (weekday : Nat) : Option Day :=
  let fourth := daysBeforeYear year + 3
  let number := fourth - weekdayAt fourth + (week - 1) * 7 + weekday
  if 1 ≤ week ∧ isoYearAt number = year then ofNumber? number else none

end Day
end Calendar
end QueryFilter
