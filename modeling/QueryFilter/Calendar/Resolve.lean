import QueryFilter.Calendar.Pattern

/-!
From parts to instants. A reading names a day if it holds one complete way to name it and
everything else it says about the date agrees; likewise for the time. Date and time together
name an instant in three ways, tried in turn: with the offset that was read, as coordinated
universal time, and as the start of the day alone.
-/

namespace QueryFilter
namespace Calendar

/-- What a day says about a part of the date. A year before zero has no century. -/
def Day.part? (d : Day) : Part → Option Int
  | .year => some d.year
  | .century => if 0 ≤ d.year then some (d.year / 100) else none
  | .yearOfCentury => if 0 ≤ d.year then some (d.year % 100) else none
  | .isoYear => some d.isoYear
  | .isoCentury => if 0 ≤ d.isoYear then some (d.isoYear / 100) else none
  | .isoYearOfCentury => if 0 ≤ d.isoYear then some (d.isoYear % 100) else none
  | .quarter => some d.quarter
  | .month => some d.month
  | .dayOfMonth => some d.dayOfMonth
  | .dayOfYear => some d.dayOfYear
  | .weekFromSunday => some (d.weekFrom 6)
  | .weekFromMonday => some (d.weekFrom 0)
  | .isoWeek => some d.isoWeek
  | .weekday => some d.weekday
  | _ => none

def Part.ofDate : List Part :=
  [.year, .century, .yearOfCentury, .isoYear, .isoCentury, .isoYearOfCentury, .quarter,
    .month, .dayOfMonth, .dayOfYear, .weekFromSunday, .weekFromMonday, .isoWeek, .weekday]

def orFault {α : Type} (found : Option α) (fault : DateFault) : Except DateFault α :=
  match found with
  | some a => .ok a
  | none => .error fault

/-- The year that a year, its century and its place in the century name together. Two digits
alone lie between 1970 and 2069. -/
def fullYear : (year century yearOfCentury : Option Int) → Except DateFault (Option Int)
  | year, none, none => .ok year
  | some year, century, ofCentury =>
      if 0 ≤ year ∧ century.getD (year / 100) = year / 100 ∧
          ofCentury.getD (year % 100) = year % 100 then
        .ok (some year)
      else .error .impossible
  | none, some century, some ofCentury => .ok (some (century * 100 + ofCentury))
  | none, none, some ofCentury =>
      .ok (some (ofCentury + if ofCentury < 70 then 2000 else 1900))
  | none, some _, none => .error .notEnough

/-- The weekday of a week that is counted within the year. -/
def Day.ofWeek? (first : Nat) (year week weekday : Int) : Except DateFault Day := do
  let _ ← orFault (Day.ofDayOfYear? year 1) .outOfRange
  orFault (Day.ofDayOfYear? year (Day.dayOfYearInWeek first year week weekday.toNat))
    .impossible

namespace Reading

/-- Whether a day agrees with every part of the date that is known. -/
def agrees (r : Reading) (d : Day) : Bool :=
  Part.ofDate.all fun part => (r.get? part).isNone || r.get? part == d.part? part

/-- The day that the first complete way to name one gives. -/
def namedDay (r : Reading) (year isoYear : Option Int) : Except DateFault Day :=
  match year, r.get? .month, r.get? .dayOfMonth with
  | some y, some m, some d => orFault (Day.ofDate? y m d) .outOfRange
  | _, _, _ =>
  match year, r.get? .dayOfYear with
  | some y, some n => orFault (Day.ofDayOfYear? y n) .outOfRange
  | _, _ =>
  match year, r.get? .weekFromSunday, r.get? .weekday with
  | some y, some w, some d => Day.ofWeek? 6 y w d
  | _, _, _ =>
  match year, r.get? .weekFromMonday, r.get? .weekday with
  | some y, some w, some d => Day.ofWeek? 0 y w d
  | _, _, _ =>
  match isoYear, r.get? .isoWeek, r.get? .weekday with
  | some y, some w, some d => orFault (Day.ofIsoWeek? y w d.toNat) .outOfRange
  | _, _, _ => .error .notEnough

def day (r : Reading) : Except DateFault Day := do
  let year ← fullYear (r.get? .year) (r.get? .century) (r.get? .yearOfCentury)
  let isoYear ← fullYear (r.get? .isoYear) (r.get? .isoCentury) (r.get? .isoYearOfCentury)
  let d ← r.namedDay year isoYear
  if r.agrees d then pure d else .error .impossible

/-- The time of day that is named. Hour and minute are needed, and a fraction needs a second. -/
def time (r : Reading) : Except DateFault TimeOfDay :=
  match r.get? .half, r.get? .hourOfHalf, r.get? .minute, r.get? .second, r.get? .nanosecond with
  | some _, some _, some _, none, some _ => .error .notEnough
  | some half, some hour, some minute, second, nanos =>
      orFault
        (TimeOfDay.ofClock? (half * 12 + hour).toNat minute.toNat (second.getD 0).toNat
          (nanos.getD 0).toNat)
        .outOfRange
  | _, _, _, _, _ => .error .notEnough

/-- Adds the parts that a timestamp, already in local time, says of date and time. -/
def noteInstant (r : Reading) (i : Instant) : Except DateFault Reading := do
  let r ← if r.get? .second = some 60 then pure r else r.note .second (i.time.second % 60)
  let r ← r.note .year i.day.year
  let r ← r.note .dayOfYear i.day.dayOfYear
  let r ← r.noteHour (i.time.second / 3600)
  r.note .minute (i.time.second / 60 % 60)

/-- The last second before an instant, if second 60 was read: a timestamp does not count the
leap second, so it names the second before it or the one after. -/
def leapAdjusted (r : Reading) (i : Instant) : Except DateFault Instant :=
  if r.get? .second ≠ some 60 then .ok i
  else if i.seconds % 60 = 59 then .ok i
  else if i.seconds % 60 = 0 then orFault (i.earlier? 1) .outOfRange
  else .error .impossible

/-- Day and time of an incomplete reading that holds a timestamp. -/
def completed (r : Reading) (timestamp offset : Int) : Except DateFault (Day × TimeOfDay) := do
  let i ← orFault (Instant.ofSeconds? (timestamp + offset) 0) .outOfRange
  let r ← r.noteInstant (← r.leapAdjusted i)
  pure (← r.day, ← r.time)

/-- Whether a timestamp is the one of a time on a day. A leap second may have either of two. -/
def timestampAgrees (d : Day) (t : TimeOfDay) (timestamp offset : Int) : Bool :=
  let stated := (Instant.ofDay d t).seconds - offset
  timestamp = stated || (1000000000 ≤ t.nanos && timestamp = stated + 1)

def isFault {α : Type} (fault : DateFault) : Except DateFault α → Bool
  | .error f => f = fault
  | .ok _ => false

/-- Day and time in the place with the given offset. Beside a timestamp a bad value is reported
before a contradiction, and parts that are only missing are taken from the timestamp. -/
def dayAndTime (r : Reading) (offset : Int) : Except DateFault (Day × TimeOfDay) :=
  match r.day, r.time, r.get? .timestamp with
  | .ok d, .ok t, none => .ok (d, t)
  | .ok d, .ok t, some timestamp =>
      if timestampAgrees d t timestamp offset then .ok (d, t) else .error .impossible
  | .error fault, _, none => .error fault
  | .ok _, .error fault, none => .error fault
  | day, time, some timestamp =>
      if isFault .outOfRange day || isFault .outOfRange time then .error .outOfRange
      else if isFault .impossible day || isFault .impossible time then .error .impossible
      else r.completed timestamp offset

/-- The instant, if an offset is known. A timestamp stands for one of zero. -/
def withOffset (r : Reading) : Except DateFault Instant := do
  let offset ←
    match r.get? .offset, r.get? .timestamp with
    | some offset, _ => pure offset
    | none, some _ => pure 0
    | none, none => .error .notEnough
  let (d, t) ← r.dayAndTime offset
  if !isOffset offset then .error .outOfRange
  orFault ((Instant.ofDay d t).earlier? offset) .impossible

def asUniversal (r : Reading) : Except DateFault Instant := do
  let (d, t) ← r.dayAndTime 0
  pure (Instant.ofDay d t)

def asMidnight (r : Reading) : Except DateFault Instant := do
  pure (Instant.ofDay (← r.day) .midnight)

/-- The instant that a reading names: the first of three ways that names one, or the fault of
the last. -/
def instant (r : Reading) : Except DateFault Instant :=
  match r.withOffset with
  | .ok i => .ok i
  | .error _ =>
      match r.asUniversal with
      | .ok i => .ok i
      | .error _ => r.asMidnight

end Reading

def Instant.ofPattern (pattern text : String) : Except DateFault Instant := do
  let r ← Reading.ofText pattern.toList text.toList
  r.instant

end Calendar
end QueryFilter
