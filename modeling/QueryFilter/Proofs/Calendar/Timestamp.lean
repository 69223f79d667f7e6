import QueryFilter.Proofs.Calendar.Civil
import QueryFilter.Proofs.Calendar.Digits

/-!
Timestamps are read back. What an instant of the years 0 to 9999 is written as names that instant
again, before 1970 or after, with any fraction of a second and in a leap second. Other years are
written with a sign, which a timestamp does not admit.
-/

namespace QueryFilter
namespace Calendar

open Text

theorem writeYear_of_lt {year : Int} (hnonneg : 0 ≤ year) (hlt : year ≤ 9999) :
    writeYear year = padded 4 year.natAbs := by
  have hdigits : year.natAbs < 10000 := by omega
  have hsign : ¬ year < 0 := by omega
  have hshort : ¬ 9999 < year := by omega
  simp only [writeYear, if_pos hdigits, if_neg hsign, if_neg hshort]

theorem writeTime_eq (t : TimeOfDay) :
    writeTime t = padded 2 (t.second / 3600) ++ ':' :: padded 2 (t.second / 60 % 60) ++
      ':' :: padded 2 t.shownSecond ++ writeFraction t.shownNanos := rfl

namespace Instant

theorem scanDate_writeDate {d : Day} (hnonneg : 0 ≤ d.year) (hlt : d.year ≤ 9999)
    (rest : List Char) : scanDate (writeDate d ++ rest) = .ok (d, rest) := by
  have hyear : d.year.natAbs < 10 ^ 4 := by omega
  have hmonth : d.month < 10 ^ 2 := Nat.lt_of_le_of_lt d.month_le (by decide)
  have hday : d.dayOfMonth < 10 ^ 2 := Nat.lt_of_le_of_lt d.dayOfMonth_le (by decide)
  have hcast : (d.year.natAbs : Int) = d.year := Int.natAbs_of_nonneg hnonneg
  simp only [writeDate, writeYear_of_lt hnonneg hlt, List.append_assoc, List.cons_append, scanDate,
    scanFixed_padded hyear, scanFixed_padded hmonth, scanFixed_padded hday, scanChar, bind,
    Except.bind, if_true, pure, Except.pure, hcast, Day.ofDate?_views]

theorem scanTime_writeTime (t : TimeOfDay) {c : Char} (hc : c.isDigit = false) (hpoint : c ≠ '.')
    (rest : List Char) : scanTime (writeTime t ++ c :: rest) = .ok (t, c :: rest) := by
  have hsecond := t.second_lt
  have hhour : t.second / 3600 < 10 ^ 2 := by omega
  have hminute : t.second / 60 % 60 < 10 ^ 2 := by omega
  have hshown : t.shownSecond < 10 ^ 2 := Nat.lt_of_le_of_lt t.shownSecond_le (by decide)
  simp only [writeTime_eq, List.append_assoc, List.cons_append, scanTime, scanFixed_padded hhour,
    scanFixed_padded hminute, scanFixed_padded hshown,
    scanOptionalFraction_writeFraction t.shownNanos_lt hc hpoint, scanChar, bind, Except.bind,
    if_true, pure, Except.pure, TimeOfDay.ofClock?_views]

theorem earlier?_zero (i : Instant) : i.earlier? 0 = some i := by
  rw [earlier?, Int.sub_zero]
  exact dif_pos ⟨i.first_le, i.le_last, i.nanos_lt, i.leap_last⟩

theorem ofRfc3339_toRfc3339 {i : Instant} (hnonneg : 0 ≤ i.day.year) (hlt : i.day.year ≤ 9999) :
    ofRfc3339 i.toRfc3339 = .ok i := by
  have hlong : 19 ≤ (writeDate i.day ++ 'T' :: (writeTime i.time ++ ['Z'])).length := by
    simp only [writeDate, writeYear_of_lt hnonneg hlt, writeTime_eq, List.length_append,
      List.length_cons, padded_length]
    omega
  have htime := scanTime_writeTime i.time (by decide : 'Z'.isDigit = false) (by decide) []
  simp only [ofRfc3339, toRfc3339, String.toList_ofList, List.append_assoc, List.cons_append,
    hasBytes_of_le_length hlong, scanDate_writeDate hnonneg hlt, scanDateMark,
    htime, scanOffset, timestampOffset, bind, Except.bind, pure, Except.pure, true_or, if_true,
    ofDay_day_time, earlier?_zero]
  rfl

end Instant
end Calendar
end QueryFilter
