import Mathlib.Algebra.Ring.Nat
import QueryFilter.Calendar.Instant

/-!
Dates and times name what they are views of. Year, month and day of the month of a day lead back
to that day, and the hour, minute, second and nanoseconds that a clock shows lead back to the time
of day, with second 60 for a leap second. The length of a year carries both directions for dates:
a day lies less than a year after the first day of its year.
-/

namespace QueryFilter
namespace Calendar

def yearLength (year : Int) : Nat := if isLeapYear year then 366 else 365

theorem daysBeforeYear_succ (year : Int) :
    daysBeforeYear (year + 1) = daysBeforeYear year + yearLength year := by
  have hleap : isLeapYear year = true ↔ year % 4 = 0 ∧ (year % 100 ≠ 0 ∨ year % 400 = 0) := by
    simp [isLeapYear]
  by_cases h : isLeapYear year = true
  · rw [yearLength, if_pos h]
    rw [hleap] at h
    simp only [daysBeforeYear]
    omega
  · rw [yearLength, if_neg h]
    rw [hleap] at h
    simp only [daysBeforeYear]
    omega

theorem daysBeforeYear_yearAt_le (days : Int) : daysBeforeYear (yearAt days) ≤ days := by
  simp only [yearAt]
  split
  · simp only [daysBeforeYear]
    omega
  · split <;> omega

theorem lt_daysBeforeYear_yearAt_succ (days : Int) : days < daysBeforeYear (yearAt days + 1) := by
  simp only [yearAt]
  split
  · next h => simpa using h
  · split
    · simp only [daysBeforeYear]
      omega
    · omega

theorem sum_monthLengths (year : Int) :
    (monthLengths (isLeapYear year)).sum = yearLength year := by
  cases h : isLeapYear year <;> simp [yearLength, h, monthLengths]

/-- A number of days that does not go beyond the months ends inside the last month begun. -/
theorem splitMonths_spec {lengths : List Nat} {days : Nat} (h : days < lengths.sum) :
    ∃ length, lengths[(splitMonths lengths days).1]? = some length ∧
      (splitMonths lengths days).2 < length ∧
      daysInMonths lengths (splitMonths lengths days).1 + (splitMonths lengths days).2 = days := by
  induction lengths generalizing days with
  | nil => simp at h
  | cons length rest ih =>
      by_cases hfirst : days < length
      · have hsplit : splitMonths (length :: rest) days = (0, days) := if_pos hfirst
        rw [hsplit]
        exact ⟨length, rfl, hfirst, by simp [daysInMonths]⟩
      · have hrest : days - length < rest.sum := by
          simp only [List.sum_cons] at h
          omega
        obtain ⟨last, hget, hlt, hsum⟩ := ih hrest
        simp only [splitMonths, if_neg hfirst]
        refine ⟨last, by simpa using hget, hlt, ?_⟩
        simp only [daysInMonths]
        omega

namespace Day

theorem number_eq (d : Day) :
    d.number = daysBeforeYear d.year + ((d.dayOfYear - 1 : Nat) : Int) := by
  have hle := daysBeforeYear_yearAt_le d.number
  simp only [dayOfYear, year]
  omega

theorem dayOfYear_sub_lt (d : Day) : d.dayOfYear - 1 < yearLength d.year := by
  have hlt := lt_daysBeforeYear_yearAt_succ d.number
  have hsucc := daysBeforeYear_succ d.year
  have hnumber := d.number_eq
  simp only [year] at *
  omega

theorem sinceNewYear_spec (d : Day) :
    ∃ length, (monthLengths (isLeapYear d.year))[d.sinceNewYear.1]? = some length ∧
      d.sinceNewYear.2 < length ∧
      daysInMonths (monthLengths (isLeapYear d.year)) d.sinceNewYear.1 + d.sinceNewYear.2 =
        d.dayOfYear - 1 := by
  apply splitMonths_spec
  rw [sum_monthLengths]
  exact d.dayOfYear_sub_lt

/-- Year, month and day of the month of a day name that day. -/
theorem ofDate?_views (d : Day) : ofDate? d.year d.month d.dayOfMonth = some d := by
  obtain ⟨length, hget, hlt, hsum⟩ := d.sinceNewYear_spec
  have hmonth : ((d.month : Int) - 1).toNat = d.sinceNewYear.1 := by
    simp only [month]
    omega
  have hvalid :
      (1 : Int) ≤ d.month ∧ (1 : Int) ≤ d.dayOfMonth ∧ (d.dayOfMonth : Int) ≤ length := by
    simp only [month, dayOfMonth]
    omega
  have hnumber : daysBeforeYear d.year +
      daysInMonths (monthLengths (isLeapYear d.year)) d.sinceNewYear.1 +
        ((d.dayOfMonth : Int) - 1) = d.number := by
    have := d.number_eq
    simp only [dayOfMonth]
    omega
  simp only [ofDate?, hmonth, hget, if_pos hvalid, hnumber]
  exact dif_pos ⟨d.first_le, d.le_last⟩

theorem month_le (d : Day) : d.month ≤ 12 := by
  obtain ⟨length, hget, _, _⟩ := d.sinceNewYear_spec
  have hlt : d.sinceNewYear.1 < 12 := by
    simpa [monthLengths] using (List.getElem?_eq_some_iff.mp hget).1
  exact hlt

theorem dayOfMonth_le (d : Day) : d.dayOfMonth ≤ 31 := by
  obtain ⟨length, hget, hlt, _⟩ := d.sinceNewYear_spec
  have hbound : ∀ leap, ∀ n ∈ monthLengths leap, n ≤ 31 := by decide
  exact Nat.le_trans hlt (hbound _ _ (List.mem_of_getElem? hget))

theorem year_ge (d : Day) : firstYear ≤ d.year := by
  have hfirst := d.first_le
  have hlt := lt_daysBeforeYear_yearAt_succ d.number
  simp only [firstDay, firstYear, daysBeforeYear, year] at *
  omega

theorem year_le (d : Day) : d.year ≤ lastYear := by
  have hlast := d.le_last
  have hle := daysBeforeYear_yearAt_le d.number
  simp only [lastDay, lastYear, daysBeforeYear, year] at *
  omega

end Day

namespace TimeOfDay

/-- The second that a clock shows, 60 during a leap second. -/
def shownSecond (t : TimeOfDay) : Nat := t.second % 60 + if 1000000000 ≤ t.nanos then 1 else 0

/-- The nanoseconds since the second that a clock shows began. -/
def shownNanos (t : TimeOfDay) : Nat := t.nanos - if 1000000000 ≤ t.nanos then 1000000000 else 0

theorem shownSecond_le (t : TimeOfDay) : t.shownSecond ≤ 60 := by
  simp only [shownSecond]
  split <;> omega

theorem shownNanos_lt (t : TimeOfDay) : t.shownNanos < 1000000000 := by
  have hlt := t.nanos_lt
  simp only [shownNanos]
  split <;> omega

/-- What a clock shows names the time of day. -/
theorem ofClock?_views (t : TimeOfDay) :
    ofClock? (t.second / 3600) (t.second / 60 % 60) t.shownSecond t.shownNanos = some t := by
  have hsecond := t.second_lt
  have hnanos := t.nanos_lt
  have hleap := t.leap_last
  have hplain : (if t.shownSecond = 60 then 59 else t.shownSecond) = t.second % 60 := by
    simp only [shownSecond]
    split <;> split at * <;> omega
  have hfine : t.shownNanos + (if t.shownSecond = 60 then 1000000000 else 0) = t.nanos := by
    simp only [shownSecond, shownNanos]
    split <;> split <;> omega
  have htotal : t.second / 3600 * 3600 + t.second / 60 % 60 * 60 + t.second % 60 = t.second := by
    omega
  simp only [ofClock?, hplain, hfine, htotal]
  exact dif_pos ⟨by omega, by omega, by omega, t.shownNanos_lt, hsecond, hnanos, hleap⟩

end TimeOfDay

end Calendar
end QueryFilter
