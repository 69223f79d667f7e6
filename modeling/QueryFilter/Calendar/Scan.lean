import QueryFilter.Calendar.Fault
import QueryFilter.Text.Blank
import QueryFilter.Text.Digits

/-!
The pieces that date text is read by: fixed digits, fractions of a second, and offsets from
coordinated universal time. Each takes its piece from the front of the text and returns what
follows. How much text is left is counted in bytes of UTF-8.
-/

namespace QueryFilter
namespace Calendar

/-- The bytes of a text in UTF-8. -/
def byteCount : List Char → Nat
  | [] => 0
  | c :: rest => c.utf8Size + byteCount rest

def hasBytes (count : Nat) (text : List Char) : Bool := count ≤ byteCount text

def scanFixed (count : Nat) (text : List Char) : Except DateFault (Nat × List Char) :=
  if !hasBytes count text then throw .tooShort
  else
    let digits := text.take count
    if digits.length = count ∧ digits.all Char.isDigit then
      pure (Text.digitsValue digits, text.drop count)
    else throw .invalid

/-- One digit or more, up to a limit if there is one. -/
def scanDigits (limit : Option Nat) (text : List Char) : Except DateFault (Nat × List Char) :=
  let run := text.takeWhile Char.isDigit
  let digits := match limit with
    | some n => run.take n
    | none => run
  if text = [] then throw .tooShort
  else if digits = [] then throw .invalid
  else pure (Text.digitsValue digits, text.drop digits.length)

/-- The nanoseconds that digits after a point stand for. Nine digits count, the others are
skipped. -/
def scanFraction (text : List Char) : Except DateFault (Nat × List Char) :=
  let run := text.takeWhile Char.isDigit
  let digits := run.take 9
  if text = [] then throw .tooShort
  else if digits = [] then throw .invalid
  else pure (Text.digitsValue digits * Nat.pow 10 (9 - digits.length), text.drop run.length)

/-- Exactly so many digits after a point, as nanoseconds. -/
def scanFixedFraction (count : Nat) (text : List Char) : Except DateFault (Nat × List Char) := do
  let (value, rest) ← scanFixed count text
  pure (value * Nat.pow 10 (9 - count), rest)

def scanChar (c : Char) : List Char → Except DateFault (Unit × List Char)
  | [] => throw .tooShort
  | d :: rest => if d = c then pure ((), rest) else throw .invalid

/-- The sign of an offset, true for one that lies west. -/
def scanSign : List Char → Except DateFault (Bool × List Char)
  | [] => throw .tooShort
  | c :: rest =>
      if c = '+' then pure (false, rest)
      else if c = '-' ∨ c = '\u2212' then pure (true, rest)
      else throw .invalid

/-- How an offset may be written: with a letter Z for none, and without its minutes at the end
of the text. -/
structure OffsetStyle where
  zulu : Bool
  bareHours : Bool
  separator : List Char → Except DateFault (Unit × List Char)

/-- Colons and blanks, as many as there are. -/
def skipColons (text : List Char) : Except DateFault (Unit × List Char) :=
  pure ((), text.dropWhile fun c => c == ':' || Text.isBlank c)

/-- The minutes of an offset, below sixty. -/
def scanOffsetMinutes (bareHours : Bool) (text : List Char) : Except DateFault (Nat × List Char) :=
  if !hasBytes 2 text then
    if bareHours ∧ text = [] then pure (0, []) else throw .tooShort
  else do
    let (minutes, rest) ← scanFixed 2 text
    if minutes < 60 then pure (minutes, rest) else throw .outOfRange

/-- An offset, in seconds to the east. -/
def scanOffset (style : OffsetStyle) (text : List Char) : Except DateFault (Int × List Char) :=
  match style.zulu, text with
  | true, 'Z' :: rest | true, 'z' :: rest => pure (0, rest)
  | _, _ => do
      let (west, unsigned) ← scanSign text
      let (hours, afterHours) ← scanFixed 2 unsigned
      let ((), separated) ← style.separator afterHours
      let (minutes, rest) ← scanOffsetMinutes style.bareHours separated
      let seconds : Int := hours * 3600 + minutes * 60
      pure (if west then -seconds else seconds, rest)

/-- The greatest offset is less than a day, in either direction. -/
def isOffset (seconds : Int) : Bool := -86400 < seconds && seconds < 86400

end Calendar
end QueryFilter
