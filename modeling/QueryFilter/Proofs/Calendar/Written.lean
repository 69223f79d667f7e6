import QueryFilter.Proofs.Calendar.Items

/-!
Instants of every year are read back by a pattern. The parts that the written form of an instant
states name its day and its time again; no offset is among them, so the two are taken as
coordinated universal time.
-/

namespace QueryFilter
namespace Calendar
namespace Reading

/-- Year, month and day of the month name a day, if no other part of the date is stated. -/
theorem day_of_views {r : Reading} {d : Day} (hyear : r.get? .year = some d.year)
    (hmonth : r.get? .month = some (d.month : Int))
    (hday : r.get? .dayOfMonth = some (d.dayOfMonth : Int))
    (hrest : ∀ part ∈ Part.ofDate, part ≠ .year → part ≠ .month → part ≠ .dayOfMonth →
      r.get? part = none) : r.day = .ok d := by
  have hcentury := hrest .century (by decide) (by decide) (by decide) (by decide)
  have hofCentury := hrest .yearOfCentury (by decide) (by decide) (by decide) (by decide)
  have hiso := hrest .isoYear (by decide) (by decide) (by decide) (by decide)
  have hisoCentury := hrest .isoCentury (by decide) (by decide) (by decide) (by decide)
  have hisoOfCentury := hrest .isoYearOfCentury (by decide) (by decide) (by decide) (by decide)
  have hagrees : r.agrees d = true := by
    rw [agrees, List.all_eq_true]
    intro part hpart
    by_cases h : part = .year ∨ part = .month ∨ part = .dayOfMonth
    · rcases h with rfl | rfl | rfl
      · simp [hyear, Day.part?]
      · simp [hmonth, Day.part?]
      · simp [hday, Day.part?]
    · simp only [not_or] at h
      simp [hrest part hpart h.1 h.2.1 h.2.2]
  have hnamed : r.namedDay (some d.year) none = .ok d := by
    simp only [namedDay, hmonth, hday, Day.ofDate?_views, orFault]
  simp only [day, hyear, hcentury, hofCentury, hiso, hisoCentury, hisoOfCentury, fullYear, bind,
    Except.bind, hnamed, hagrees]
  rfl

theorem time_of_views {r : Reading} {t : TimeOfDay}
    (hhalf : r.get? .half = some ((t.second / 3600 / 12 : Nat) : Int))
    (hhour : r.get? .hourOfHalf = some ((t.second / 3600 % 12 : Nat) : Int))
    (hminute : r.get? .minute = some ((t.second / 60 % 60 : Nat) : Int))
    (hsecond : r.get? .second = some (t.shownSecond : Int))
    (hnanos : (r.get? .nanosecond).getD 0 = t.shownNanos) : r.time = .ok t := by
  have hclock : ((((t.second / 3600 / 12 : Nat) : Int) * 12 + (t.second / 3600 % 12 : Nat)).toNat) =
      t.second / 3600 := by omega
  simp only [time, hhalf, hhour, hminute, hsecond, hnanos, Option.getD_some, hclock,
    Int.toNat_natCast, TimeOfDay.ofClock?_views, orFault]

theorem get?_ofWritten (d : Day) (t : TimeOfDay) {part : Part} (h : part ≠ .nanosecond) :
    (ofWritten d t).get? part = (ofWrittenClock d t).get? part := by
  rw [ofWritten]
  split
  · rfl
  · exact get?_set_of_ne _ _ h

theorem get?_ofWrittenClock_eq_none (d : Day) (t : TimeOfDay) {part : Part}
    (h : part ∉ [.year, .month, .dayOfMonth, .half, .hourOfHalf, .minute, .second]) :
    (ofWrittenClock d t).get? part = none := by
  simp only [List.mem_cons, List.not_mem_nil, or_false, not_or] at h
  simp [ofWrittenClock, ofWrittenDate, set, empty, h]

theorem day_ofWritten (d : Day) (t : TimeOfDay) : (ofWritten d t).day = .ok d := by
  apply day_of_views
  · exact get?_ofWritten d t (by decide)
  · exact get?_ofWritten d t (by decide)
  · exact get?_ofWritten d t (by decide)
  · intro part hpart hyear hmonth hday
    have hfree : ∀ part ∈ Part.ofDate, part ≠ .year → part ≠ .month → part ≠ .dayOfMonth →
        part ≠ .nanosecond ∧
          part ∉ [.year, .month, .dayOfMonth, .half, .hourOfHalf, .minute, .second] := by
      decide
    obtain ⟨hnanos, hunset⟩ := hfree part hpart hyear hmonth hday
    rw [get?_ofWritten d t hnanos]
    exact get?_ofWrittenClock_eq_none d t hunset

theorem time_ofWritten (d : Day) (t : TimeOfDay) : (ofWritten d t).time = .ok t := by
  apply time_of_views
  · exact get?_ofWritten d t (by decide)
  · exact get?_ofWritten d t (by decide)
  · exact get?_ofWritten d t (by decide)
  · exact get?_ofWritten d t (by decide)
  · rw [ofWritten]
    split
    · next hzero =>
      rw [hzero]
      rfl
    · rw [get?_set_self]
      rfl

theorem instant_ofWritten (d : Day) (t : TimeOfDay) :
    (ofWritten d t).instant = .ok (.ofDay d t) := by
  have hoffset : (ofWritten d t).get? .offset = none := get?_ofWritten d t (by decide)
  have htimestamp : (ofWritten d t).get? .timestamp = none := get?_ofWritten d t (by decide)
  have hfaulty : (ofWritten d t).withOffset = .error .notEnough := by
    simp only [withOffset, hoffset, htimestamp]
    rfl
  have huniversal : (ofWritten d t).asUniversal = .ok (.ofDay d t) := by
    simp only [asUniversal, dayAndTime, day_ofWritten, time_ofWritten, htimestamp]
    rfl
  simp only [instant, hfaulty, huniversal]

end Reading

namespace Instant

/-- The pattern of the written form of an instant. -/
def writtenPattern : String := "%Y-%m-%dT%H:%M:%S%.fZ"

theorem items_writtenPattern :
    Item.ofPattern writtenPattern.toList =
      Item.writtenDate ++ .literal ['T'] :: (Item.writtenTime ++ [.literal ['Z']]) := by
  cbv

theorem ofPattern_toRfc3339 (i : Instant) :
    ofPattern writtenPattern i.toRfc3339 = .ok i := by
  have hdate := scanItems_writeDate i.day
    (.literal ['T'] :: (Item.writtenTime ++ [.literal ['Z']])) ('T' :: (writeTime i.time ++ ['Z']))
  have htime := scanItems_writeTime i.day i.time [.literal ['Z']]
    (by decide : 'Z'.isDigit = false) (by decide) []
  have hread : Reading.ofText writtenPattern.toList i.toRfc3339.toList =
      .ok (.ofWritten i.day i.time) := by
    simp only [Reading.ofText, items_writtenPattern, toRfc3339, String.toList_ofList,
      List.append_assoc, List.cons_append, hdate]
    rw [scanItems_literal, htime, scanItems_literal]
    rfl
  simp only [ofPattern, hread, bind, Except.bind, Reading.instant_ofWritten, ofDay_day_time]

end Instant
end Calendar
end QueryFilter
