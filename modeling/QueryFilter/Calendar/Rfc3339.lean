import QueryFilter.Calendar.Instant
import QueryFilter.Calendar.Scan

/-!
RFC 3339 timestamps. Instants are written in coordinated universal time with the fewest of
0, 3, 6 or 9 digits of fraction that are exact, and a leap second as second 60. Timestamps
are read with any offset and any fraction.
-/

namespace QueryFilter
namespace Calendar

/-- A year: four digits, and outside of those a sign and at least four. -/
def writeYear (year : Int) : List Char :=
  let digits :=
    if year.natAbs < 10000 then Text.padded 4 year.natAbs else Nat.toDigits 10 year.natAbs
  if year < 0 then '-' :: digits else if 9999 < year then '+' :: digits else digits

/-- A fraction of a second, without the point if it is zero. -/
def writeFraction (nanos : Nat) : List Char :=
  if nanos = 0 then []
  else if nanos % 1000000 = 0 then '.' :: Text.padded 3 (nanos / 1000000)
  else if nanos % 1000 = 0 then '.' :: Text.padded 6 (nanos / 1000)
  else '.' :: Text.padded 9 nanos

def writeDate (d : Day) : List Char :=
  writeYear d.year ++ '-' :: Text.padded 2 d.month ++ '-' :: Text.padded 2 d.dayOfMonth

/-- The time of day, a leap second as second 60. -/
def writeTime (t : TimeOfDay) : List Char :=
  let leap := 1000000000 ≤ t.nanos
  let second := t.second % 60 + if leap then 1 else 0
  let nanos := t.nanos - if leap then 1000000000 else 0
  Text.padded 2 (t.second / 3600) ++ ':' :: Text.padded 2 (t.second / 60 % 60) ++
    ':' :: Text.padded 2 second ++ writeFraction nanos

namespace Instant

def toRfc3339 (i : Instant) : String :=
  String.ofList (writeDate i.day ++ 'T' :: writeTime i.time ++ ['Z'])

/-- The offset of a timestamp: the letter Z, or hours and minutes around a colon. -/
def timestampOffset : OffsetStyle := ⟨true, false, scanChar ':'⟩

/-- A fraction, if a point begins one. -/
def scanOptionalFraction : List Char → Except DateFault (Nat × List Char)
  | '.' :: rest => scanFraction rest
  | text => pure (0, text)

def scanDate (text : List Char) : Except DateFault (Day × List Char) := do
  let (year, rest) ← scanFixed 4 text
  let ((), rest) ← scanChar '-' rest
  let (month, rest) ← scanFixed 2 rest
  let ((), rest) ← scanChar '-' rest
  let (day, rest) ← scanFixed 2 rest
  match Day.ofDate? year month day with
  | some d => pure (d, rest)
  | none => throw .outOfRange

def scanDateMark : List Char → Except DateFault (Unit × List Char)
  | [] => throw .tooShort
  | c :: rest => if c = 'T' ∨ c = 't' ∨ c = ' ' then pure ((), rest) else throw .invalid

def scanTime (text : List Char) : Except DateFault (TimeOfDay × List Char) := do
  let (hour, rest) ← scanFixed 2 text
  let ((), rest) ← scanChar ':' rest
  let (minute, rest) ← scanFixed 2 rest
  let ((), rest) ← scanChar ':' rest
  let (second, rest) ← scanFixed 2 rest
  let (nanos, rest) ← scanOptionalFraction rest
  match TimeOfDay.ofClock? hour minute second nanos with
  | some t => pure (t, rest)
  | none => throw .outOfRange

/-- The instant that a timestamp names. A text shorter than a date and a time in seconds is
refused before anything is read. -/
def ofRfc3339 (text : String) : Except DateFault Instant := do
  let chars := text.toList
  if !hasBytes 19 chars then throw .tooShort
  let (day, rest) ← scanDate chars
  let ((), rest) ← scanDateMark rest
  let (time, rest) ← scanTime rest
  let (offset, rest) ← scanOffset timestampOffset rest
  if rest ≠ [] then throw .tooLong
  if !isOffset offset then throw .outOfRange
  match (ofDay day time).earlier? offset with
  | some i => pure i
  | none => throw .impossible

end Instant
end Calendar
end QueryFilter
