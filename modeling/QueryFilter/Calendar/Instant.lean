import QueryFilter.Calendar.Day

/-!
Times of day and instants. A leap second is the 59th second of a minute with a thousand
million nanoseconds or more, so that it follows the ordinary one and comes before the next
minute.
-/

namespace QueryFilter
namespace Calendar

/-- A time of day: the second of the day and the nanoseconds in it. -/
structure TimeOfDay where
  second : Nat
  nanos : Nat
  second_lt : second < 86400
  nanos_lt : nanos < 2000000000
  leap_last : 1000000000 ≤ nanos → second % 60 = 59
deriving DecidableEq

namespace TimeOfDay

def midnight : TimeOfDay := ⟨0, 0, by decide, by decide, by decide⟩

/-- The time that hour, minute, second and nanoseconds name. Second 60 is a leap second. -/
def ofClock? (hour minute second nanos : Nat) : Option TimeOfDay :=
  let leap := second = 60
  let plain := if leap then 59 else second
  let total := hour * 3600 + minute * 60 + plain
  let fine := nanos + if leap then 1000000000 else 0
  if h : hour < 24 ∧ minute < 60 ∧ plain < 60 ∧ nanos < 1000000000 ∧
      total < 86400 ∧ fine < 2000000000 ∧ (1000000000 ≤ fine → total % 60 = 59) then
    some ⟨total, fine, h.2.2.2.2.1, h.2.2.2.2.2.1, h.2.2.2.2.2.2⟩
  else none

end TimeOfDay

def firstSecond : Int := firstDay * 86400
def lastSecond : Int := lastDay * 86400 + 86399

/-- An instant of coordinated universal time: seconds since the start of 1970, leap seconds
not counted, and nanoseconds. -/
structure Instant where
  seconds : Int
  nanos : Nat
  first_le : firstSecond ≤ seconds
  le_last : seconds ≤ lastSecond
  nanos_lt : nanos < 2000000000
  leap_last : 1000000000 ≤ nanos → seconds % 60 = 59
deriving DecidableEq

namespace Instant

def ofSeconds? (seconds : Int) (nanos : Nat) : Option Instant :=
  if h : firstSecond ≤ seconds ∧ seconds ≤ lastSecond ∧ nanos < 2000000000 ∧
      (1000000000 ≤ nanos → seconds % 60 = 59) then
    some ⟨seconds, nanos, h.1, h.2.1, h.2.2.1, h.2.2.2⟩
  else none

def ofDay (d : Day) (t : TimeOfDay) : Instant where
  seconds := d.number * 86400 + t.second
  nanos := t.nanos
  first_le := by
    have := d.first_le
    simp only [firstSecond]
    omega
  le_last := by
    have := d.le_last
    have := t.second_lt
    simp only [lastSecond]
    omega
  nanos_lt := t.nanos_lt
  leap_last h := by
    have := t.leap_last h
    omega

def day (i : Instant) : Day where
  number := i.seconds / 86400
  first_le := by
    have := i.first_le
    simp only [firstSecond] at this
    omega
  le_last := by
    have := i.le_last
    simp only [lastSecond] at this
    omega

def time (i : Instant) : TimeOfDay where
  second := (i.seconds % 86400).toNat
  nanos := i.nanos
  second_lt := by omega
  nanos_lt := i.nanos_lt
  leap_last h := by
    have := i.leap_last h
    omega

/-- The instant a number of seconds earlier, with the same nanoseconds. -/
def earlier? (i : Instant) (seconds : Int) : Option Instant :=
  ofSeconds? (i.seconds - seconds) i.nanos

def isEpoch (i : Instant) : Bool := i.seconds = 0 && i.nanos = 0

@[simp] theorem day_ofDay (d : Day) (t : TimeOfDay) : (ofDay d t).day = d := by
  have := t.second_lt
  cases d
  simp only [day, ofDay, Day.mk.injEq]
  omega

@[simp] theorem time_ofDay (d : Day) (t : TimeOfDay) : (ofDay d t).time = t := by
  have := t.second_lt
  cases t
  simp only [time, ofDay, TimeOfDay.mk.injEq, and_true]
  omega

theorem ofDay_day_time (i : Instant) : ofDay i.day i.time = i := by
  cases i
  simp only [time, day, ofDay, Instant.mk.injEq, and_true]
  omega

end Instant
end Calendar
end QueryFilter
