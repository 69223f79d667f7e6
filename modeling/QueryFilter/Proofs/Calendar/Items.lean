import QueryFilter.Calendar.Resolve
import QueryFilter.Proofs.Calendar.Timestamp

/-!
What a pattern reads from a written date or time. Read item by item, the text of a day or of a
time of day gives exactly the parts that the day or the time has: a year whatever its sign, the
halves of the hour, and a fraction only where one is written. What follows is left for the items
that follow.
-/

namespace QueryFilter

namespace Text

theorem isBlank_of_isDigit {c : Char} (h : c.isDigit = true) : isBlank c = false := by
  have hdigit : 48 ≤ c.toNat ∧ c.toNat ≤ 57 := by
    simpa [Char.isDigit, UInt32.le_iff_toNat_le] using h
  have hapart : ∀ range ∈ blankRanges, range.2 < 48 ∨ 57 < range.1 := by decide
  rw [Bool.eq_false_iff]
  intro hblank
  obtain ⟨range, hmem, hfirst, hlast⟩ := Ranges.exists_range_of_contains hblank
  have := hapart range hmem
  omega

theorem skipBlanks_cons {c : Char} (h : isBlank c = false) (rest : List Char) :
    skipBlanks (c :: rest) = c :: rest := by
  rw [skipBlanks, List.dropWhile_cons, h]
  rfl

theorem skipBlanks_digits {digits : List Char} (hne : digits ≠ [])
    (h : ∀ c ∈ digits, c.isDigit = true) (rest : List Char) :
    skipBlanks (digits ++ rest) = digits ++ rest := by
  cases digits with
  | nil => exact absurd rfl hne
  | cons c more => exact skipBlanks_cons (isBlank_of_isDigit (h c List.mem_cons_self)) _

end Text

namespace Calendar

open Text

section Years

/-- The digits of a year, without its sign. -/
def yearDigits (year : Int) : List Char :=
  if year.natAbs < 10000 then padded 4 year.natAbs else Nat.toDigits 10 year.natAbs

theorem writeYear_eq (year : Int) :
    writeYear year = if year < 0 then '-' :: yearDigits year
      else if 9999 < year then '+' :: yearDigits year else yearDigits year := rfl

theorem yearDigits_ne_nil (year : Int) : yearDigits year ≠ [] := by
  rw [yearDigits]
  split
  · exact padded_ne_nil (by decide) _
  · exact Nat.toDigits_ne_nil

theorem isDigit_of_mem_yearDigits (year : Int) : ∀ c ∈ yearDigits year, c.isDigit = true := by
  intro c hc
  rw [yearDigits] at hc
  split at hc
  · exact isDigit_of_mem_padded hc
  · exact Nat.isDigit_of_mem_toDigits (by decide) (by decide) hc

theorem digitsValue_yearDigits (year : Int) : digitsValue (yearDigits year) = year.natAbs := by
  rw [yearDigits]
  split
  · next h => exact digitsValue_padded h
  · exact digitsValue_toDigits _

theorem scanSigned_digits {digits : List Char} (hne : digits ≠ [])
    (h : ∀ c ∈ digits, c.isDigit = true) (limit : Option Nat) (rest : List Char) :
    scanSigned limit (digits ++ rest) =
      (scanDigits limit (digits ++ rest)).map fun (n, rest) => ((n : Int), rest) := by
  cases digits with
  | nil => exact absurd rfl hne
  | cons c more =>
      have hc := h c List.mem_cons_self
      rw [List.cons_append, scanSigned]
      · cases scanDigits limit (c :: (more ++ rest)) <;> rfl
      · intro text htext
        cases htext
        cases hc
      · intro text htext
        cases htext
        cases hc

/-- A year is read back whatever its sign, as long as no digit follows it. -/
theorem scanNumber_writeYear {year : Int} (h : year.natAbs < 0x8000000000000000) {c : Char}
    (hc : c.isDigit = false) (rest : List Char) :
    scanNumber (some 4) true (writeYear year ++ c :: rest) = .ok (year, c :: rest) := by
  have hne := yearDigits_ne_nil year
  have hdigits := isDigit_of_mem_yearDigits year
  have hrun := scanDigits_run hne hdigits hc rest
  have hscan : scanSigned (some 4) (skipBlanks (writeYear year ++ c :: rest)) =
      .ok (year, c :: rest) := by
    rw [writeYear_eq]
    split
    · next hneg =>
      have hvalue : (-(year.natAbs : Int)) = year := by omega
      rw [List.cons_append, skipBlanks_cons (by decide), scanSigned, hrun,
        digitsValue_yearDigits]
      simp only [bind, Except.bind, pure, Except.pure, hvalue]
    · split
      · next hnonneg hlong =>
        have hvalue : (year.natAbs : Int) = year := by omega
        rw [List.cons_append, skipBlanks_cons (by decide), scanSigned, hrun,
          digitsValue_yearDigits]
        simp only [bind, Except.bind, pure, Except.pure, hvalue]
      · next hnonneg hshort =>
        have hvalue : (year.natAbs : Int) = year := by omega
        have hlt : year.natAbs < 10 ^ 4 := by omega
        have hpadded : yearDigits year = padded 4 year.natAbs := if_pos hlt
        rw [skipBlanks_digits hne hdigits, scanSigned_digits hne hdigits, hpadded,
          scanDigits_padded (by decide) hlt]
        simp only [Except.map, hvalue]
  simp only [scanNumber, if_true, hscan, bind, Except.bind, if_pos h]
  rfl

end Years

namespace Reading

theorem note_of_none {r : Reading} {part : Part} {value : Int}
    (h : part.bounds.1 ≤ value ∧ value ≤ part.bounds.2) (hnone : r.get? part = none) :
    r.note part value = .ok (r.set part value) := by
  have hadmits : part.admits value = true := by simpa [Part.admits] using h
  simp only [note, hadmits, hnone]
  rfl

theorem noteHour_of_none {r : Reading} {hour : Nat} (h : hour < 24)
    (hhalf : r.get? .half = none) (hhour : r.get? .hourOfHalf = none) :
    r.noteHour hour = .ok ((r.set .half (hour / 12 : Nat)).set .hourOfHalf (hour % 12 : Nat)) := by
  have hvalid : ¬ ((hour : Int) < 0 ∨ 23 < (hour : Int)) := by omega
  have hquot : (hour : Int) / 12 = (hour / 12 : Nat) := by omega
  have hrem : (hour : Int) % 12 = (hour % 12 : Nat) := by omega
  have hhalfNote : r.note .half (hour / 12 : Nat) = .ok (r.set .half (hour / 12 : Nat)) :=
    note_of_none (by simp only [Part.bounds]; omega) hhalf
  have hfree : (r.set .half (hour / 12 : Nat)).get? .hourOfHalf = none := by
    rw [get?_set_of_ne r _ (by decide), hhour]
  simp only [noteHour, if_neg hvalid, bind, Except.bind, hquot, hrem, hhalfNote]
  exact note_of_none (by simp only [Part.bounds]; omega) hfree

end Reading

section Items

variable {r r' : Reading} (items : List Item)

theorem scanItems_literal (c : Char) (rest : List Char) :
    scanItems (.literal [c] :: items) r (c :: rest) = scanItems items r rest := by
  have hbytes : hasBytes (byteCount [c]) (c :: rest) = true := by
    apply decide_eq_true
    simp only [byteCount]
    omega
  have hscan : (Item.literal [c]).scan r (c :: rest) = .ok (r, rest) := by
    simp [Item.scan, hbytes]
  rw [scanItems, hscan]
  rfl

theorem scanItems_year {year : Int} (h : year.natAbs < 0x8000000000000000) {c : Char}
    (hc : c.isDigit = false) (hnote : r.note .year year = .ok r') (rest : List Char) :
    scanItems (.year :: items) r (writeYear year ++ c :: rest) =
      scanItems items r' (c :: rest) := by
  have hscan : Item.year.scan r (writeYear year ++ c :: rest) = .ok (r', c :: rest) := by
    simp only [Item.year, Item.scan, scanNumber_writeYear h hc, bind, Except.bind,
      Reading.noteQuantity, hnote]
    rfl
  rw [scanItems, hscan]
  rfl

theorem scanNumber_padded {width n : Nat} (hwidth : 0 < width) (hle : width ≤ 18)
    (h : n < 10 ^ width) (rest : List Char) :
    scanNumber (some width) false (padded width n ++ rest) = .ok ((n : Int), rest) := by
  have hpow : 10 ^ width ≤ 10 ^ 18 := Nat.pow_le_pow_right (by decide) hle
  have hword : (n : Int).natAbs < 0x8000000000000000 := by omega
  simp only [scanNumber, skipBlanks_digits (padded_ne_nil hwidth n) fun _ => isDigit_of_mem_padded,
    scanDigits_padded hwidth h, Except.map, bind, Except.bind, if_pos hword]
  rfl

theorem scanItems_two (quantity : Quantity) {n : Nat} (h : n < 100)
    (hnote : r.noteQuantity quantity n = .ok r') (rest : List Char) :
    scanItems (.number quantity (some 2) false :: items) r (padded 2 n ++ rest) =
      scanItems items r' rest := by
  have hscan : (Item.number quantity (some 2) false).scan r (padded 2 n ++ rest) =
      .ok (r', rest) := by
    have hread := scanNumber_padded (by decide : 0 < 2) (by decide) h rest
    simp only [Item.scan, hread, bind, Except.bind, hnote]
    rfl
  rw [scanItems, hscan]
  rfl

theorem scanItems_digits {part : Part} {n : Nat} (h : n < 100)
    (hbounds : part.bounds.1 ≤ n ∧ n ≤ part.bounds.2) (hnone : r.get? part = none)
    (rest : List Char) :
    scanItems (.digits part 2 :: items) r (padded 2 n ++ rest) =
      scanItems items (r.set part n) rest :=
  scanItems_two items (.part part) h (Reading.note_of_none hbounds hnone) rest

theorem scanItems_fraction {nanos : Nat} (h : nanos < 1000000000) {c : Char}
    (hc : c.isDigit = false) (hpoint : c ≠ '.') (hnone : nanos = 0 → r' = r)
    (hnote : nanos ≠ 0 → r.note .nanosecond nanos = .ok r') (rest : List Char) :
    scanItems (.fraction :: items) r (writeFraction nanos ++ c :: rest) =
      scanItems items r' (c :: rest) := by
  have hread := Instant.scanOptionalFraction_writeFraction h hc hpoint rest
  have hscan : Item.fraction.scan r (writeFraction nanos ++ c :: rest) = .ok (r', c :: rest) := by
    by_cases hzero : nanos = 0
    · rw [hnone hzero, hzero, writeFraction, if_pos rfl, List.nil_append, Item.scan]
      intro digits heq
      exact hpoint (List.cons.inj heq).1
    · obtain ⟨digits, hdigits⟩ : ∃ digits, writeFraction nanos = '.' :: digits := by
        simp only [writeFraction, if_neg hzero]
        split
        · exact ⟨_, rfl⟩
        · split <;> exact ⟨_, rfl⟩
      rw [hdigits, List.cons_append, Instant.scanOptionalFraction] at hread
      rw [hdigits, List.cons_append, Item.scan, hread]
      simp only [bind, Except.bind, hnote hzero]
      rfl
  rw [scanItems, hscan]
  rfl

end Items

namespace Reading

/-- What the written form of a day states. -/
def ofWrittenDate (d : Day) : Reading :=
  ((empty.set .year d.year).set .month d.month).set .dayOfMonth d.dayOfMonth

/-- What the written form of an instant states, but for the fraction of its second. -/
def ofWrittenClock (d : Day) (t : TimeOfDay) : Reading :=
  ((((ofWrittenDate d).set .half (t.second / 3600 / 12 : Nat)).set .hourOfHalf
    (t.second / 3600 % 12 : Nat)).set .minute (t.second / 60 % 60 : Nat)).set .second t.shownSecond

/-- What the written form of an instant states. A fraction is stated only where there is one. -/
def ofWritten (d : Day) (t : TimeOfDay) : Reading :=
  if t.shownNanos = 0 then ofWrittenClock d t
  else (ofWrittenClock d t).set .nanosecond t.shownNanos

end Reading

namespace Item

def writtenDate : List Item :=
  [year, .literal ['-'], digits .month 2, .literal ['-'], digits .dayOfMonth 2]

def writtenTime : List Item :=
  [hour, .literal [':'], digits .minute 2, .literal [':'], digits .second 2, .fraction]

end Item

theorem scanItems_writeDate (d : Day) (items : List Item) (rest : List Char) :
    scanItems (Item.writtenDate ++ items) .empty (writeDate d ++ rest) =
      scanItems items (.ofWrittenDate d) rest := by
  have hge := d.year_ge
  have hle := d.year_le
  have hmonth := d.month_le
  have hday := d.dayOfMonth_le
  have hmonthPos : 1 ≤ d.month := Nat.le_add_left ..
  have hdayPos : 1 ≤ d.dayOfMonth := Nat.le_add_left ..
  simp only [firstYear, lastYear] at hge hle
  have hyearBounds : Part.year.bounds.1 ≤ d.year ∧ d.year ≤ Part.year.bounds.2 := by
    simp only [Part.bounds]
    omega
  have hmonthBounds : Part.month.bounds.1 ≤ d.month ∧ d.month ≤ Part.month.bounds.2 := by
    simp only [Part.bounds]
    omega
  have hdayBounds :
      Part.dayOfMonth.bounds.1 ≤ d.dayOfMonth ∧ d.dayOfMonth ≤ Part.dayOfMonth.bounds.2 := by
    simp only [Part.bounds]
    omega
  have hyear : Reading.empty.note .year d.year = .ok (.set .empty .year d.year) :=
    Reading.note_of_none hyearBounds rfl
  simp only [Item.writtenDate, writeDate, List.cons_append, List.nil_append, List.append_assoc]
  rw [scanItems_year _ (by omega) (by decide) hyear, scanItems_literal,
    scanItems_digits _ (by omega) hmonthBounds rfl, scanItems_literal,
    scanItems_digits _ (by omega) hdayBounds rfl]
  rfl

theorem scanItems_writeTime (d : Day) (t : TimeOfDay) (items : List Item) {c : Char}
    (hc : c.isDigit = false) (hpoint : c ≠ '.') (rest : List Char) :
    scanItems (Item.writtenTime ++ items) (.ofWrittenDate d) (writeTime t ++ c :: rest) =
      scanItems items (.ofWritten d t) (c :: rest) := by
  have hsecond := t.second_lt
  have hshown := t.shownSecond_le
  have hnanos := t.shownNanos_lt
  have hlt : t.second / 3600 < 24 := by omega
  have hhour : (Reading.ofWrittenDate d).noteHour (t.second / 3600 : Nat) = _ :=
    Reading.noteHour_of_none hlt rfl rfl
  have hminute : Part.minute.bounds.1 ≤ (t.second / 60 % 60 : Nat) ∧
      ((t.second / 60 % 60 : Nat) : Int) ≤ Part.minute.bounds.2 := by
    simp only [Part.bounds]
    omega
  have hsecondBounds :
      Part.second.bounds.1 ≤ t.shownSecond ∧ t.shownSecond ≤ Part.second.bounds.2 := by
    simp only [Part.bounds]
    omega
  have hnanosBounds :
      Part.nanosecond.bounds.1 ≤ t.shownNanos ∧ t.shownNanos ≤ Part.nanosecond.bounds.2 := by
    simp only [Part.bounds]
    omega
  have hfraction : t.shownNanos ≠ 0 →
      (Reading.ofWrittenClock d t).note .nanosecond t.shownNanos = .ok (.ofWritten d t) := by
    intro hpos
    rw [Reading.ofWritten, if_neg hpos]
    exact Reading.note_of_none hnanosBounds rfl
  simp only [Item.writtenTime, writeTime_eq, List.cons_append, List.nil_append, List.append_assoc]
  rw [Item.hour, scanItems_two _ .hour (by omega) hhour, scanItems_literal,
    scanItems_digits _ (by omega) hminute rfl, scanItems_literal,
    scanItems_digits _ (by omega) hsecondBounds rfl]
  exact scanItems_fraction _ hnanos hc hpoint (fun hzero => if_pos hzero) hfraction rest

end Calendar
end QueryFilter
