import QueryFilter.Calendar.Fault

/-!
What date text says, part by part. A reading holds the parts read so far; noting a part again
is harmless when it says the same and a contradiction when it does not.
-/

namespace QueryFilter
namespace Calendar

/-- The parts that date text can state. Years may be split into century and year of the
century, hours into half of the day and hour of the half. Weekdays count from Monday, offsets
are in seconds to the east. -/
inductive Part where
  | year | century | yearOfCentury
  | isoYear | isoCentury | isoYearOfCentury
  | quarter | month | dayOfMonth | dayOfYear
  | weekFromSunday | weekFromMonday | isoWeek | weekday
  | half | hourOfHalf | minute | second | nanosecond
  | timestamp | offset
deriving DecidableEq

namespace Part

def bounds : Part → Int × Int
  | year | isoYear => (-2147483648, 2147483647)
  | century | isoCentury => (0, 2147483647)
  | yearOfCentury | isoYearOfCentury => (0, 99)
  | quarter => (1, 4)
  | month => (1, 12)
  | dayOfMonth => (1, 31)
  | dayOfYear => (1, 366)
  | weekFromSunday | weekFromMonday => (0, 53)
  | isoWeek => (1, 53)
  | weekday => (0, 6)
  | half => (0, 1)
  | hourOfHalf => (0, 11)
  | minute => (0, 59)
  | second => (0, 60)
  | nanosecond => (0, 999999999)
  | timestamp => (-9223372036854775808, 9223372036854775807)
  | offset => (-2147483648, 2147483647)

def admits (part : Part) (value : Int) : Bool :=
  part.bounds.1 ≤ value && value ≤ part.bounds.2

end Part

structure Reading where
  get? : Part → Option Int

namespace Reading

def empty : Reading := ⟨fun _ => none⟩

def set (r : Reading) (part : Part) (value : Int) : Reading :=
  ⟨fun p => if p = part then some value else r.get? p⟩

def note (r : Reading) (part : Part) (value : Int) : Except DateFault Reading :=
  if !part.admits value then .error .outOfRange
  else
    match r.get? part with
    | none => .ok (r.set part value)
    | some known => if known = value then .ok r else .error .impossible

def noteHour (r : Reading) (hour : Int) : Except DateFault Reading := do
  if hour < 0 ∨ 23 < hour then .error .outOfRange
  let r ← r.note .half (hour / 12)
  r.note .hourOfHalf (hour % 12)

/-- Notes an hour of either half of the day, from one to twelve. -/
def noteHourOfTwelve (r : Reading) (hour : Int) : Except DateFault Reading := do
  if hour < 1 ∨ 12 < hour then .error .outOfRange
  r.note .hourOfHalf (hour % 12)

/-- Notes a weekday counted from Sunday, which is zero. -/
def noteWeekdayFromSunday (r : Reading) (weekday : Int) : Except DateFault Reading := do
  if weekday < 0 ∨ 6 < weekday then .error .outOfRange
  r.note .weekday ((weekday + 6) % 7)

/-- Notes a weekday counted from Monday, which is one. -/
def noteWeekdayFromMonday (r : Reading) (weekday : Int) : Except DateFault Reading := do
  if weekday < 1 ∨ 7 < weekday then .error .outOfRange
  r.note .weekday (weekday - 1)

@[simp] theorem get?_set_self (r : Reading) (part : Part) (value : Int) :
    (r.set part value).get? part = some value := by
  simp [set]

theorem get?_set_of_ne (r : Reading) {part other : Part} (value : Int) (h : other ≠ part) :
    (r.set part value).get? other = r.get? other := by
  simp [set, h]

theorem get?_of_note {r r' : Reading} {part : Part} {value : Int}
    (h : r.note part value = .ok r') : r'.get? part = some value := by
  unfold note at h
  split at h
  · cases h
  · split at h
    · cases h
      exact get?_set_self r part value
    · next known hk =>
      split at h
      · next he =>
        cases h
        rw [hk, he]
      · cases h

end Reading
end Calendar
end QueryFilter
