import QueryFilter.DateFormat
import QueryFilter.Proofs.Calendar.Stated

/-!
Offsets in date patterns. When a pattern asks for an offset and not for a timestamp, a text that
states a day, a time of day and an offset of less than a day names the instant at which clocks with
that offset show that time on that day. If the calendar holds that instant, it is the answer. If
not, or if the offset is a day or more, the offset is dropped and the day and the time are taken as
coordinated universal time; a day without a time is taken as its midnight.
-/

namespace QueryFilter
namespace Calendar

theorem Instant.earlier?_eq_some_iff {i j : Instant} {seconds : Int} :
    i.earlier? seconds = some j ↔ j.seconds + seconds = i.seconds ∧ j.nanos = i.nanos := by
  constructor
  · intro h
    simp only [earlier?, ofSeconds?, Option.dite_none_right_eq_some, Option.some.injEq] at h
    obtain ⟨_, rfl⟩ := h
    exact ⟨by simp, rfl⟩
  · rintro ⟨hseconds, hnanos⟩
    have hshifted : i.seconds - seconds = j.seconds := by omega
    simp only [earlier?, hshifted, ← hnanos]
    exact dif_pos ⟨j.first_le, j.le_last, j.nanos_lt, j.leap_last⟩

namespace Reading

variable {r : Reading} {d : Day} {i : Instant}

/-- A reading names an instant at its offset if clocks with that offset, which is less than a day,
show the day and the time of the reading at that instant. -/
def NamesAtOffset (r : Reading) (i : Instant) : Prop :=
  ∃ d t offset, r.day = .ok d ∧ r.time = .ok t ∧ r.get? .offset = some offset ∧
    -86400 < offset ∧ offset < 86400 ∧
    i.seconds + offset = d.number * 86400 + t.second ∧ i.nanos = t.nanos

theorem dayAndTime_of_timestamp_none (h : r.get? .timestamp = none) (offset : Int) :
    r.dayAndTime offset = (do pure (← r.day, ← r.time)) := by
  unfold dayAndTime
  rw [h]
  cases r.day with
  | error _ => rfl
  | ok d => cases r.time <;> rfl

theorem withOffset_of_timestamp_none {offset : Int} (h : r.get? .timestamp = none)
    (hoffset : r.get? .offset = some offset) :
    r.withOffset = (do
      let d ← r.day
      let t ← r.time
      if isOffset offset then orFault ((Instant.ofDay d t).earlier? offset) .impossible
      else .error .outOfRange) := by
  simp only [withOffset, hoffset, dayAndTime_of_timestamp_none h]
  cases r.day with
  | error _ => rfl
  | ok d =>
      cases r.time with
      | error _ => rfl
      | ok t =>
          cases hrange : isOffset offset <;>
            simp [bind, Except.bind, pure, Except.pure, hrange]

theorem withOffset_eq_ok_iff (h : r.get? .timestamp = none) :
    r.withOffset = .ok i ↔ r.NamesAtOffset i := by
  cases hoffset : r.get? .offset with
  | none =>
      constructor
      · intro hread
        rw [withOffset, hoffset, h] at hread
        cases hread
      · rintro ⟨d, t, offset, _, _, hstated, _⟩
        rw [hoffset] at hstated
        cases hstated
  | some offset =>
      rw [withOffset_of_timestamp_none h hoffset]
      constructor
      · intro hread
        obtain ⟨d, hday, hread⟩ := exists_of_bind_eq_ok hread
        obtain ⟨t, htime, hread⟩ := exists_of_bind_eq_ok hread
        split at hread
        · next hrange =>
          have hless : -86400 < offset ∧ offset < 86400 := by simpa [isOffset] using hrange
          obtain ⟨hseconds, hnanos⟩ := Instant.earlier?_eq_some_iff.mp (orFault_eq_ok.mp hread)
          exact ⟨d, t, offset, hday, htime, hoffset, hless.1, hless.2, hseconds, hnanos⟩
        · cases hread
      · rintro ⟨d, t, stated, hday, htime, hstated, hgt, hlt, hseconds, hnanos⟩
        cases hoffset.symm.trans hstated
        have hrange : isOffset offset = true := by simp [isOffset, hgt, hlt]
        have hshifted : (Instant.ofDay d t).earlier? offset = some i :=
          Instant.earlier?_eq_some_iff.mpr ⟨hseconds, hnanos⟩
        simp only [hday, htime, bind, Except.bind, hrange, if_true]
        exact orFault_eq_ok.mpr hshifted

theorem asUniversal_of_time {t : TimeOfDay} (h : r.get? .timestamp = none) (hday : r.day = .ok d)
    (htime : r.time = .ok t) : r.asUniversal = .ok (.ofDay d t) := by
  rw [asUniversal, dayAndTime_of_timestamp_none h, hday, htime]
  rfl

theorem asUniversal_of_time_error {fault : DateFault} (h : r.get? .timestamp = none)
    (hday : r.day = .ok d) (htime : r.time = .error fault) : r.asUniversal = .error fault := by
  rw [asUniversal, dayAndTime_of_timestamp_none h, hday, htime]
  rfl

theorem instant_of_namesAtOffset (h : r.get? .timestamp = none) (hnames : r.NamesAtOffset i) :
    r.instant = .ok i := by
  rw [instant, (withOffset_eq_ok_iff h).mpr hnames]

/-- Without an instant at the offset, the day and the time stand as they are, a missing time as
midnight. -/
theorem instant_of_unnamed (h : r.get? .timestamp = none) (hday : r.day = .ok d)
    (hnone : ∀ i, ¬ r.NamesAtOffset i) :
    r.instant = .ok (.ofDay d (r.time.toOption.getD .midnight)) := by
  have hunshifted : ∀ i, r.withOffset ≠ .ok i := fun i hi =>
    hnone i ((withOffset_eq_ok_iff h).mp hi)
  cases hwith : r.withOffset with
  | ok i => exact absurd hwith (hunshifted i)
  | error _ =>
      cases htime : r.time with
      | ok t =>
          simp only [instant, hwith, asUniversal_of_time h hday htime]
          rfl
      | error _ =>
          simp only [instant, hwith, asUniversal_of_time_error h hday htime, asMidnight, hday]
          rfl

theorem instant_of_day_error {fault : DateFault} (h : r.get? .timestamp = none)
    (hday : r.day = .error fault) : r.instant = .error fault := by
  have huniversal : r.asUniversal = .error fault := by
    rw [asUniversal, dayAndTime_of_timestamp_none h, hday]
    rfl
  cases hwith : r.withOffset with
  | ok i =>
      obtain ⟨d, _, _, hnamed, _⟩ := (withOffset_eq_ok_iff h).mp hwith
      rw [hday] at hnamed
      cases hnamed
  | error _ =>
      simp only [instant, hwith, huniversal, asMidnight, hday]
      rfl

/-- A reading is true to its text if it holds the offset that stands in the text wherever the
pattern has one, and if the day and the time that it names show every part that it holds. -/
structure TrueTo (r : Reading) (pattern text : List Char) : Prop where
  offset : ∀ {before after : List Item} {lenient : Bool},
    Item.ofPattern pattern = before ++ .offset lenient :: after →
      ∃ middle left seconds rest, scanItems before .empty text = .ok (middle, left) ∧
        scanOffset (patternOffset lenient) (Text.skipBlanks left) = .ok (seconds, rest) ∧
        r.get? .offset = some seconds
  day : ∀ {d part value}, r.day = .ok d → part ∈ Part.ofDate → r.get? part = some value →
    d.part? part = some value
  time : ∀ {t part value}, r.time = .ok t → part ∈ Part.ofTime → r.get? part = some value →
    t.part? part = some value

theorem trueTo_of_ofText {pattern text : List Char} (h : ofText pattern text = .ok r) :
    r.TrueTo pattern text where
  offset hitems := by
    obtain ⟨middle, left, next, rest, hbefore, hitem, hkept⟩ := exists_scan_of_ofText h hitems
    obtain ⟨seconds, hscan, hnoted⟩ := scan_offset hitem
    exact ⟨middle, left, seconds, rest, hbefore, hscan, hkept .offset seconds hnoted⟩
  day hday hpart hvalue := part?_of_day hday hpart hvalue
  time htime hpart hvalue := part?_of_time (bounded_of_ofText h) htime hpart hvalue

end Reading
end Calendar

namespace DateFormat

open Calendar

variable {pattern text : String} {r : Reading}

theorem parse_of_ofText (h : Reading.ofText pattern.toList text.toList = .ok r) :
    parse (.pattern pattern) text = r.instant.mapError (.date text (.pattern pattern)) := by
  simp only [parse, Instant.ofPattern, h]
  rfl

theorem parse_of_ofText_error {fault : DateFault}
    (h : Reading.ofText pattern.toList text.toList = .error fault) :
    parse (.pattern pattern) text = .error (.date text (.pattern pattern) fault) := by
  simp only [parse, Instant.ofPattern, h]
  rfl

section NoTimestamp

variable (htimestamp : ∀ item ∈ Item.ofPattern pattern.toList, .timestamp ∉ item.parts)
include htimestamp

theorem parse_of_day_error {fault : DateFault}
    (h : (Reading.ofText pattern.toList text.toList >>= Reading.day) = .error fault) :
    parse (.pattern pattern) text = .error (.date text (.pattern pattern) fault) := by
  cases hread : Reading.ofText pattern.toList text.toList with
  | error other =>
      rw [hread] at h
      cases h
      exact parse_of_ofText_error hread
  | ok r =>
      have hfree := Reading.get?_eq_none_of_ofText hread htimestamp
      rw [hread] at h
      rw [parse_of_ofText hread, Reading.instant_of_day_error hfree h]
      rfl

theorem parse_of_namesAtOffset {i : Instant}
    (hread : Reading.ofText pattern.toList text.toList = .ok r) (hnames : r.NamesAtOffset i) :
    parse (.pattern pattern) text = .ok i := by
  have hfree := Reading.get?_eq_none_of_ofText hread htimestamp
  rw [parse_of_ofText hread, Reading.instant_of_namesAtOffset hfree hnames]
  rfl

theorem parse_of_unnamed {d : Day} (hread : Reading.ofText pattern.toList text.toList = .ok r)
    (hday : r.day = .ok d) (hnone : ∀ i, ¬ r.NamesAtOffset i) :
    parse (.pattern pattern) text = .ok (.ofDay d (r.time.toOption.getD .midnight)) := by
  have hfree := Reading.get?_eq_none_of_ofText hread htimestamp
  rw [parse_of_ofText hread, Reading.instant_of_unnamed hfree hday hnone]
  rfl

end NoTimestamp

/-- A text that is read by a pattern with an offset states one. -/
theorem exists_offset (hoffset : .unknown ∈ Item.ofPattern pattern.toList ∨
      ∃ lenient, .offset lenient ∈ Item.ofPattern pattern.toList)
    (h : Reading.ofText pattern.toList text.toList = .ok r) :
    ∃ seconds, r.get? .offset = some seconds := by
  rcases hoffset with hunknown | ⟨lenient, hmem⟩
  · exact absurd hunknown (unknown_notMem (scanItems_of_ofText h))
  · obtain ⟨before, after, hitems⟩ := List.append_of_mem hmem
    obtain ⟨_, _, seconds, _, _, _, hstated⟩ := (Reading.trueTo_of_ofText h).offset hitems
    exact ⟨seconds, hstated⟩

/-- What becomes of the offset when a pattern asks for one, and for no timestamp. A text that is
read states an offset. Without a day it is refused; with an instant at its offset it names that
instant; otherwise the offset is dropped. So the texts whose offset is kept are the ones that are
refused or name an instant at it. -/
theorem offset_kept_iff (pattern text : String)
    (hoffset : .unknown ∈ Item.ofPattern pattern.toList ∨
      ∃ lenient, .offset lenient ∈ Item.ofPattern pattern.toList)
    (htimestamp : ∀ item ∈ Item.ofPattern pattern.toList, .timestamp ∉ item.parts) :
    (∀ r, Reading.ofText pattern.toList text.toList = .ok r →
        r.TrueTo pattern.toList text.toList ∧ ∃ seconds, r.get? .offset = some seconds) ∧
      (∀ fault, (Reading.ofText pattern.toList text.toList >>= Reading.day) = .error fault →
        parse (.pattern pattern) text = .error (.date text (.pattern pattern) fault)) ∧
      (∀ r d, Reading.ofText pattern.toList text.toList = .ok r → r.day = .ok d →
        (∀ i, r.NamesAtOffset i → parse (.pattern pattern) text = .ok i) ∧
          ((∀ i, ¬ r.NamesAtOffset i) →
            parse (.pattern pattern) text =
              .ok (.ofDay d (r.time.toOption.getD .midnight)))) ∧
      ((∀ i, parse (.pattern pattern) text = .ok i →
          ∃ r, Reading.ofText pattern.toList text.toList = .ok r ∧ r.NamesAtOffset i) ↔
        ∀ r d, Reading.ofText pattern.toList text.toList = .ok r → r.day = .ok d →
          ∃ i, r.NamesAtOffset i) := by
  refine ⟨?_, fun fault => parse_of_day_error htimestamp, ?_, ?_, ?_⟩
  · intro r hread
    exact ⟨Reading.trueTo_of_ofText hread, exists_offset hoffset hread⟩
  · intro r d hread hday
    exact ⟨fun i => parse_of_namesAtOffset htimestamp hread,
      parse_of_unnamed htimestamp hread hday⟩
  · intro hall r d hread hday
    by_contra hnone
    have hunnamed : ∀ i, ¬ r.NamesAtOffset i := fun i hi => hnone ⟨i, hi⟩
    obtain ⟨other, hother, hnames⟩ := hall _ (parse_of_unnamed htimestamp hread hday hunnamed)
    cases hread.symm.trans hother
    exact hunnamed _ hnames
  · intro hall i hparse
    cases hday : Reading.ofText pattern.toList text.toList >>= Reading.day with
    | error fault =>
        rw [parse_of_day_error htimestamp hday] at hparse
        cases hparse
    | ok d =>
        obtain ⟨r, hread, hrd⟩ := exists_of_bind_eq_ok hday
        obtain ⟨named, hnames⟩ := hall r d hread hrd
        have hnamed := parse_of_namesAtOffset htimestamp hread hnames
        cases hnamed.symm.trans hparse
        exact ⟨r, hread, hnames⟩

/-- A date, a time of day in minutes and an offset. -/
def zonedPattern : String := "%Y-%m-%d %H:%M %z"

theorem items_zonedPattern :
    Item.ofPattern zonedPattern.toList =
      [.year, .literal ['-'], .digits .month 2, .literal ['-'], .digits .dayOfMonth 2, .blanks,
        .hour, .literal [':'], .digits .minute 2, .blanks, .offset false] := by
  cbv

theorem offset_mem_zonedPattern : .offset false ∈ Item.ofPattern zonedPattern.toList := by
  rw [items_zonedPattern]
  decide

theorem timestamp_notMem_zonedPattern :
    ∀ item ∈ Item.ofPattern zonedPattern.toList, .timestamp ∉ item.parts := by
  rw [items_zonedPattern]
  decide

/-- The time at an offset of one hour to the east, which is the instant an hour earlier. -/
theorem offset_kept_iff_east :
    ∃ i, parse (.pattern zonedPattern) "2024-01-29 13:00 +0100" = .ok i ∧
      i.seconds = 1706529600 := by
  have hread : ∃ r, Reading.ofText zonedPattern.toList "2024-01-29 13:00 +0100".toList = .ok r ∧
      r.day = .ok ⟨19751, by decide, by decide⟩ ∧
      r.time = .ok ⟨46800, 0, by decide, by decide, by decide⟩ ∧ r.get? .offset = some 3600 := by
    simp only [Reading.ofText, items_zonedPattern]
    exact ⟨_, rfl, rfl, rfl, rfl⟩
  obtain ⟨r, hread, hday, htime, hoffset⟩ := hread
  obtain ⟨_, _, hnamed, _⟩ := offset_kept_iff zonedPattern "2024-01-29 13:00 +0100"
    (.inr ⟨false, offset_mem_zonedPattern⟩) timestamp_notMem_zonedPattern
  have hnames : r.NamesAtOffset ⟨1706529600, 0, by decide, by decide, by decide, by decide⟩ :=
    ⟨_, _, 3600, hday, htime, hoffset, by decide, by decide, by decide, rfl⟩
  exact ⟨_, (hnamed r _ hread hday).1 _ hnames, rfl⟩

/-- An offset of a whole day is dropped: the time is taken as coordinated universal time. -/
theorem offset_of_day_dropped :
    .offset false ∈ Item.ofPattern zonedPattern.toList ∧
      (∀ item ∈ Item.ofPattern zonedPattern.toList, .timestamp ∉ item.parts) ∧
      ∃ r i, Reading.ofText zonedPattern.toList "2024-01-29 13:00 +2400".toList = .ok r ∧
        r.get? .offset = some 86400 ∧
        parse (.pattern zonedPattern) "2024-01-29 13:00 +2400" = .ok i ∧
        i.seconds = 1706533200 ∧ ¬ r.NamesAtOffset i := by
  have hread : ∃ r, Reading.ofText zonedPattern.toList "2024-01-29 13:00 +2400".toList = .ok r ∧
      r.get? .offset = some 86400 ∧
      r.instant = .ok ⟨1706533200, 0, by decide, by decide, by decide, by decide⟩ := by
    simp only [Reading.ofText, items_zonedPattern]
    exact ⟨_, rfl, rfl, rfl⟩
  obtain ⟨r, hread, hoffset, hinstant⟩ := hread
  have hparse := parse_of_ofText hread
  rw [hinstant] at hparse
  refine ⟨offset_mem_zonedPattern, timestamp_notMem_zonedPattern, r, _, hread, hoffset, hparse,
    rfl, ?_⟩
  rintro ⟨_, _, stated, _, _, hstated, _, hlt, _⟩
  cases hoffset.symm.trans hstated
  exact absurd hlt (by decide)

end DateFormat
end QueryFilter
