import QueryFilter.Calendar.Reading
import QueryFilter.Calendar.Rfc3339

/-!
Date patterns. A pattern is a row of items: blanks, literal text, and specifiers that begin
with a percent sign. Reading text by a pattern takes one item after the other and notes the
parts they state.
-/

namespace QueryFilter
namespace Calendar

/-- What the digits of a numeric item state. -/
inductive Quantity where
  | part (part : Part)
  | hour
  | hourOfTwelve
  | weekdayFromSunday
  | weekdayFromMonday
deriving DecidableEq

def Reading.noteQuantity (r : Reading) : Quantity → Int → Except DateFault Reading
  | .part part, value => r.note part value
  | .hour, value => r.noteHour value
  | .hourOfTwelve, value => r.noteHourOfTwelve value
  | .weekdayFromSunday, value => r.noteWeekdayFromSunday value
  | .weekdayFromMonday, value => r.noteWeekdayFromMonday value

inductive Item where
  /-- Any number of blanks, none included. -/
  | blanks
  | literal (text : List Char)
  /-- Digits, up to a limit. Explicitly signed, there may be more. -/
  | number (quantity : Quantity) (limit : Option Nat) (signed : Bool)
  | monthName (long : Bool)
  | weekdayName (long : Bool)
  | half
  /-- A point and a fraction of a second, or nothing. -/
  | fraction
  /-- A fraction with a fixed count of digits, after a point that may be missing. -/
  | pointFraction (count : Nat)
  /-- A fraction with a fixed count of digits and no point. -/
  | bareFraction (count : Nat)
  | zoneName
  | offset (lenient : Bool)
  /-- The mark between date and time in a timestamp. -/
  | dateMark
  /-- The end of a timestamp: an offset, or a name for none. -/
  | zone
  | unknown
deriving DecidableEq

namespace Item

/-- The numeric item of a part, unsigned. -/
def digits (part : Part) (limit : Nat) : Item := .number (.part part) (some limit) false

def year : Item := .number (.part .year) (some 4) true

def numeric? : Char → Option Item
  | 'Y' => some year
  | 'C' => some (digits .century 2)
  | 'y' => some (digits .yearOfCentury 2)
  | 'G' => some (.number (.part .isoYear) (some 4) true)
  | 'g' => some (digits .isoYearOfCentury 2)
  | 'q' => some (digits .quarter 1)
  | 'm' => some (digits .month 2)
  | 'd' | 'e' => some (digits .dayOfMonth 2)
  | 'j' => some (digits .dayOfYear 3)
  | 'U' => some (digits .weekFromSunday 2)
  | 'W' => some (digits .weekFromMonday 2)
  | 'V' => some (digits .isoWeek 2)
  | 'w' => some (.number .weekdayFromSunday (some 1) false)
  | 'u' => some (.number .weekdayFromMonday (some 1) false)
  | 'H' | 'k' => some (.number .hour (some 2) false)
  | 'I' | 'l' => some (.number .hourOfTwelve (some 2) false)
  | 'M' => some (digits .minute 2)
  | 'S' => some (digits .second 2)
  | 'f' => some (digits .nanosecond 9)
  | 's' => some (.number (.part .timestamp) none false)
  | _ => none

def separated (separator : Item) : List Item → List Item
  | [] => []
  | [item] => [item]
  | item :: rest => item :: separator :: separated separator rest

def hour : Item := .number .hour (some 2) false

def clock (hour : Item) : List Item :=
  separated (.literal [':']) [hour, digits .minute 2, digits .second 2]

/-- A timestamp whose parts may have blanks between them. -/
def timestamp : List Item :=
  let part (mark : Char) (item : Item) : List Item := [.blanks, .literal [mark], item]
  year :: part '-' (digits .month 2) ++ part '-' (digits .dayOfMonth 2) ++
    .dateMark :: hour :: part ':' (digits .minute 2) ++ part ':' (digits .second 2) ++
    [.fraction, .blanks, .zone]

def named? : Char → Option (List Item)
  | 'a' => some [.weekdayName false]
  | 'A' => some [.weekdayName true]
  | 'b' | 'h' => some [.monthName false]
  | 'B' => some [.monthName true]
  | 'p' | 'P' => some [.half]
  | 'Z' => some [.zoneName]
  | 'z' => some [.offset false]
  | '+' => some timestamp
  | 'n' | 't' => some [.blanks]
  | '%' => some [.literal ['%']]
  | 'D' | 'x' =>
      some (separated (.literal ['/'])
        [digits .month 2, digits .dayOfMonth 2, digits .yearOfCentury 2])
  | 'F' => some (separated (.literal ['-']) [year, digits .month 2, digits .dayOfMonth 2])
  | 'R' => some (separated (.literal [':']) [hour, digits .minute 2])
  | 'T' | 'X' => some (clock hour)
  | 'r' => some (clock (.number .hourOfTwelve (some 2) false) ++ [.blanks, .half])
  | 'c' =>
      some ([.weekdayName false, .blanks, .monthName false, .blanks, digits .dayOfMonth 2,
        .blanks] ++ clock hour ++ [.blanks, year])
  | 'v' =>
      some (separated (.literal ['-']) [digits .dayOfMonth 2, .monthName false, year])
  | _ => none

/-- The number of digits that a fixed fraction may have. -/
def fractionCount? : Char → Option Nat
  | '3' => some 3
  | '6' => some 6
  | '9' => some 9
  | _ => none

def letter? (c : Char) : Option (List Item) :=
  match numeric? c with
  | some item => some [item]
  | none => named? c

/-- What follows a percent sign: the items, and how many characters spell them. -/
def specifier? : List Char → Option (List Item × Nat)
  | ':' :: ':' :: ':' :: 'z' :: _ => some ([.offset false], 4)
  | ':' :: ':' :: 'z' :: _ => some ([.offset false], 3)
  | ':' :: 'z' :: _ => some ([.offset false], 2)
  | '#' :: 'z' :: _ => some ([.offset true], 2)
  | '.' :: 'f' :: _ => some ([.fraction], 2)
  | '.' :: c :: 'f' :: _ => (fractionCount? c).map fun count => ([.pointFraction count], 3)
  | c :: rest =>
      if c = '-' ∨ c = '0' ∨ c = '_' then
        (rest.head?.bind numeric?).map fun item => ([item], 2)
      else
        match fractionCount? c with
        | none => (letter? c).map fun items => (items, 1)
        | some count => if rest.head? = some 'f' then some ([.bareFraction count], 2) else none
  | [] => none

def isPlain (c : Char) : Bool := c != '%' && !Text.isBlank c

/-- The items of a pattern. Nothing after an unknown specifier matters. -/
def ofPattern (pattern : List Char) : List Item :=
  match pattern with
  | [] => []
  | c :: rest =>
      if c = '%' then
        match specifier? rest with
        | some (items, used) => items ++ ofPattern (rest.drop used)
        | none => [.unknown]
      else if Text.isBlank c then .blanks :: ofPattern (rest.dropWhile Text.isBlank)
      else .literal (c :: rest.takeWhile isPlain) :: ofPattern (rest.dropWhile isPlain)
termination_by pattern.length
decreasing_by
  · exact Nat.lt_succ_of_le (List.drop_suffix _ _).length_le
  · exact Nat.lt_succ_of_le (List.dropWhile_suffix _).length_le
  · exact Nat.lt_succ_of_le (List.dropWhile_suffix _).length_le

end Item

def monthNames : List (String × String) :=
  [("jan", "uary"), ("feb", "ruary"), ("mar", "ch"), ("apr", "il"), ("may", ""), ("jun", "e"),
    ("jul", "y"), ("aug", "ust"), ("sep", "tember"), ("oct", "ober"), ("nov", "ember"),
    ("dec", "ember")]

def weekdayNames : List (String × String) :=
  [("mon", "day"), ("tue", "sday"), ("wed", "nesday"), ("thu", "rsday"), ("fri", "day"),
    ("sat", "urday"), ("sun", "day")]

def beginsWith (name : String) (text : List Char) : Bool :=
  (text.take name.length).map Char.toLower = name.toList

/-- The place of the name that the text begins with, in a list of names of three letters and
their ends. The long form takes the end along if it is there. -/
def scanName (names : List (String × String)) (long : Bool) (text : List Char) :
    Except DateFault (Nat × List Char) :=
  if !hasBytes 3 text then .error .tooShort
  else
    match names.findIdx? fun name => beginsWith name.1 text with
    | none => .error .invalid
    | some index =>
        let rest := text.drop 3
        let ending := ((names[index]?).map Prod.snd).getD ""
        .ok (index, if long ∧ beginsWith ending rest then rest.drop ending.length else rest)

/-- The half of the day, am being zero and pm one. -/
def scanHalf (text : List Char) : Except DateFault (Nat × List Char) :=
  if !hasBytes 2 text then .error .tooShort
  else if beginsWith "am" text then .ok (0, text.drop 2)
  else if beginsWith "pm" text then .ok (1, text.drop 2)
  else .error .invalid

/-- A number with an optional sign. An explicit sign lifts the limit on the digits. -/
def scanSigned (limit : Option Nat) : List Char → Except DateFault (Int × List Char)
  | '-' :: rest => do
      let (value, rest) ← scanDigits none rest
      pure (-value, rest)
  | '+' :: rest => do
      let (value, rest) ← scanDigits none rest
      pure (value, rest)
  | text => do
      let (value, rest) ← scanDigits limit text
      pure (value, rest)

def scanNumber (limit : Option Nat) (signed : Bool) (text : List Char) :
    Except DateFault (Int × List Char) := do
  let text := Text.skipBlanks text
  let (value, rest) ←
    if signed then scanSigned limit text
    else (scanDigits limit text).map fun (n, rest) => ((n : Int), rest)
  if value.natAbs < 0x8000000000000000 then pure (value, rest) else .error .outOfRange

/-- The offset of a pattern: colons and blanks may separate hours and minutes. -/
def patternOffset (lenient : Bool) : OffsetStyle := ⟨lenient, lenient, skipColons⟩

/-- The end of a timestamp that is read by a pattern. -/
def scanZone (text : List Char) : Except DateFault (Int × List Char) :=
  if beginsWith "utc" text then .ok (0, text.drop 3)
  else scanOffset ⟨true, false, skipColons⟩ text

def Item.scan (item : Item) (r : Reading) (text : List Char) :
    Except DateFault (Reading × List Char) :=
  match item with
  | .blanks => .ok (r, Text.skipBlanks text)
  | .literal expected =>
      if !hasBytes (byteCount expected) text then .error .tooShort
      else if expected.isPrefixOf text then .ok (r, text.drop expected.length)
      else .error .invalid
  | .number quantity limit signed => do
      let (value, rest) ← scanNumber limit signed text
      pure (← r.noteQuantity quantity value, rest)
  | .monthName long => do
      let (index, rest) ← scanName monthNames long text
      pure (← r.note .month (index + 1), rest)
  | .weekdayName long => do
      let (index, rest) ← scanName weekdayNames long text
      pure (← r.note .weekday index, rest)
  | .half => do
      let (index, rest) ← scanHalf text
      pure (← r.note .half index, rest)
  | .fraction =>
      match text with
      | '.' :: digits => do
          let (nanos, rest) ← scanFraction digits
          pure (← r.note .nanosecond nanos, rest)
      | _ => .ok (r, text)
  | .pointFraction count =>
      match text with
      | '.' :: digits => do
          let (nanos, rest) ← scanFixedFraction count digits
          pure (← r.note .nanosecond nanos, rest)
      | _ => .ok (r, text)
  | .bareFraction count => do
      let (nanos, rest) ← scanFixedFraction count text
      pure (← r.note .nanosecond nanos, rest)
  | .zoneName => .ok (r, text.dropWhile fun c => !Text.isBlank c)
  | .offset lenient => do
      let (seconds, rest) ← scanOffset (patternOffset lenient) (Text.skipBlanks text)
      pure (← r.note .offset seconds, rest)
  | .dateMark => do
      let ((), rest) ← Instant.scanDateMark text
      pure (r, rest)
  | .zone => do
      let (seconds, rest) ← scanZone text
      pure (← r.note .offset seconds, rest)
  | .unknown => .error .badPattern

def scanItems : List Item → Reading → List Char → Except DateFault (Reading × List Char)
  | [], r, text => .ok (r, text)
  | item :: rest, r, text => do
      let (r, text) ← item.scan r text
      scanItems rest r text

/-- What a text says when it is read by a pattern, all of it. -/
def Reading.ofText (pattern text : List Char) : Except DateFault Reading := do
  let (r, rest) ← scanItems (Item.ofPattern pattern) .empty text
  if rest = [] then pure r else .error .tooLong

end Calendar
end QueryFilter
