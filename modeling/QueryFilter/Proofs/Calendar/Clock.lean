import QueryFilter.Proofs.Calendar.Offset

/-!
Times of day in date patterns. A text that is read by a pattern with an hour, a minute, a second or
a half of the day states parts of a time of day. If those parts tell the time, clocks with the
stated offset show it at the answer, unless the offset is dropped. If they do not tell it, because
the minute is missing or the half of a twelve-hour clock, the text is not refused: the parts are
dropped and the answer is the midnight of the day.
-/

namespace QueryFilter
namespace Calendar

/-- The parts of a time of day that make a pattern ask for one. A fraction of a second alone does
not. -/
def Part.ofClock : List Part := [.half, .hourOfHalf, .minute, .second]

namespace Reading

variable {r r' s : Reading} {d : Day} {i : Instant} {t : TimeOfDay}

/-- Everything known to one reading is known to the other. -/
def Within (s r : Reading) : Prop :=
  ∀ part value, s.get? part = some value → r.get? part = some value

/-- A part that is noted beside others can be noted without them. -/
theorem Within.note (hs : s.Within r) {part : Part} {value : Int} (h : r.note part value = .ok r') :
    ∃ s', s.note part value = .ok s' ∧ s'.Within r' := by
  have hself := get?_of_note h
  have hkept : s.Within r' := fun other known hknown => (Grows.note h).kept (hs other known hknown)
  unfold Reading.note at h ⊢
  split at h
  · cases h
  · next hadmits =>
    rw [if_neg hadmits]
    cases hpart : s.get? part with
    | none =>
        refine ⟨s.set part value, rfl, ?_⟩
        intro other known hknown
        by_cases hother : other = part
        · subst hother
          rw [get?_set_self] at hknown
          cases hknown
          exact hself
        · rw [get?_set_of_ne s value hother] at hknown
          exact hkept other known hknown
    | some known =>
        cases (hkept part known hpart).symm.trans hself
        exact ⟨s, if_pos rfl, hkept⟩

theorem Within.noteHour (hs : s.Within r) {hour : Int} (h : r.noteHour hour = .ok r') :
    ∃ s', s.noteHour hour = .ok s' ∧ s'.Within r' := by
  unfold Reading.noteHour at h ⊢
  split at h
  · cases h
  · next hrange =>
    obtain ⟨r₁, hhalf, hhour⟩ := exists_of_bind_eq_ok h
    obtain ⟨s₁, hhalf', hs₁⟩ := hs.note hhalf
    obtain ⟨s', hhour', hs'⟩ := hs₁.note hhour
    refine ⟨s', ?_, hs'⟩
    rw [if_neg hrange]
    simp only [hhalf']
    exact hhour'

theorem Within.noteQuantity (hs : s.Within r) {quantity : Quantity} {value : Int}
    (h : r.noteQuantity quantity value = .ok r') :
    ∃ s', s.noteQuantity quantity value = .ok s' ∧ s'.Within r' := by
  cases quantity with
  | part part => exact hs.note h
  | hour => exact hs.noteHour h
  | hourOfTwelve | weekdayFromSunday | weekdayFromMonday =>
      simp only [Reading.noteQuantity, noteHourOfTwelve, noteWeekdayFromSunday,
        noteWeekdayFromMonday] at h ⊢
      split at h
      · cases h
      · next hrange =>
        rw [if_neg hrange]
        exact hs.note h

theorem isSome_of_noteQuantity {quantity : Quantity} {value : Int}
    (h : r.noteQuantity quantity value = .ok r') {part : Part} (hpart : part ∈ quantity.parts) :
    (r'.get? part).isSome := by
  cases quantity with
  | part stated =>
      cases List.mem_singleton.mp hpart
      rw [get?_of_note h]
      rfl
  | hour =>
      simp only [Reading.noteQuantity, Reading.noteHour] at h
      split at h
      · cases h
      · obtain ⟨_, hhalf, hhour⟩ := exists_of_bind_eq_ok h
        simp only [Quantity.parts, List.mem_cons, List.not_mem_nil, or_false] at hpart
        rcases hpart with rfl | rfl
        · rw [(Grows.note hhour).kept (get?_of_note hhalf)]
          rfl
        · rw [get?_of_note hhour]
          rfl
  | hourOfTwelve | weekdayFromSunday | weekdayFromMonday =>
      simp only [Reading.noteQuantity, noteHourOfTwelve, noteWeekdayFromSunday,
        noteWeekdayFromMonday] at h
      split at h
      · cases h
      · cases List.mem_singleton.mp hpart
        rw [get?_of_note h]
        rfl

end Reading

section Scanning

variable {r r' s : Reading} {text rest : List Char}

/-- An item that reads a value and notes it does so beside less that is known. -/
theorem within_of_scan_note {α : Type} {found : Except DateFault (α × List Char)}
    (note : Reading → α → Except DateFault Reading)
    (hnote : ∀ a, note r a = .ok r' → ∃ s', note s a = .ok s' ∧ s'.Within r')
    (h : (do let (a, rest) ← found; pure (← note r a, rest)) = .ok (r', rest)) :
    ∃ s', (do let (a, rest) ← found; pure (← note s a, rest)) = .ok (s', rest) ∧
      s'.Within r' := by
  obtain ⟨⟨a, _⟩, hfound, h⟩ := exists_of_bind_eq_ok h
  obtain ⟨_, hnoted, hpair⟩ := exists_of_bind_eq_ok h
  cases hpair
  obtain ⟨s', hnoted', hs'⟩ := hnote a hnoted
  refine ⟨s', ?_, hs'⟩
  simp only [hfound]
  exact congrArg (Except.map (·, rest)) hnoted'

theorem Item.scan_within {item : Item} (hs : s.Within r)
    (h : item.scan r text = .ok (r', rest)) :
    ∃ s', item.scan s text = .ok (s', rest) ∧ s'.Within r' := by
  cases item with
  | blanks | zoneName =>
      cases h
      exact ⟨s, rfl, hs⟩
  | literal expected =>
      simp only [scan] at h ⊢
      split at h
      · cases h
      · next hlong =>
        rw [if_neg hlong]
        split at h
        · next hread =>
          cases h
          exact ⟨s, if_pos hread, hs⟩
        · cases h
  | number quantity limit signed =>
      exact within_of_scan_note (fun r => r.noteQuantity quantity) (fun _ => hs.noteQuantity) h
  | monthName long =>
      exact within_of_scan_note (fun r (index : Nat) => r.note .month (index + 1))
        (fun _ => hs.note) h
  | weekdayName long =>
      exact within_of_scan_note (fun r (index : Nat) => r.note .weekday index) (fun _ => hs.note) h
  | half =>
      exact within_of_scan_note (fun r (index : Nat) => r.note .half index) (fun _ => hs.note) h
  | fraction =>
      simp only [scan] at h ⊢
      split at h
      · exact within_of_scan_note (fun r (nanos : Nat) => r.note .nanosecond nanos)
          (fun _ => hs.note) h
      · cases h
        exact ⟨s, rfl, hs⟩
  | pointFraction count =>
      simp only [scan] at h ⊢
      split at h
      · exact within_of_scan_note (fun r (nanos : Nat) => r.note .nanosecond nanos)
          (fun _ => hs.note) h
      · cases h
        exact ⟨s, rfl, hs⟩
  | bareFraction count =>
      exact within_of_scan_note (fun r (nanos : Nat) => r.note .nanosecond nanos)
        (fun _ => hs.note) h
  | offset lenient => exact within_of_scan_note (fun r => r.note .offset) (fun _ => hs.note) h
  | dateMark =>
      obtain ⟨⟨_, left⟩, hmark, hpair⟩ := exists_of_bind_eq_ok h
      cases hpair
      refine ⟨s, ?_, hs⟩
      simp only [scan, hmark]
      rfl
  | zone => exact within_of_scan_note (fun r => r.note .offset) (fun _ => hs.note) h
  | unknown => cases h

/-- An item that is taken states all its parts, but for a fraction of a second, which may be
missing from the text. -/
theorem Item.isSome_of_scan {item : Item} (h : item.scan r text = .ok (r', rest)) {part : Part}
    (hpart : part ∈ item.parts) (hne : part ≠ .nanosecond) : (r'.get? part).isSome := by
  cases item with
  | blanks | literal _ | zoneName | dateMark | unknown => cases hpart
  | fraction | pointFraction _ | bareFraction _ => exact absurd (List.mem_singleton.mp hpart) hne
  | number quantity limit signed =>
      obtain ⟨_, _, h⟩ := exists_of_bind_eq_ok h
      obtain ⟨_, hnote, hpair⟩ := exists_of_bind_eq_ok h
      cases hpair
      exact Reading.isSome_of_noteQuantity hnote hpart
  | monthName _ | weekdayName _ | half | offset _ | zone =>
      obtain ⟨_, _, h⟩ := exists_of_bind_eq_ok h
      obtain ⟨_, hnote, hpair⟩ := exists_of_bind_eq_ok h
      cases hpair
      cases List.mem_singleton.mp hpart
      rw [Reading.get?_of_note hnote]
      rfl

end Scanning

theorem TimeOfDay.exists_ofClock? {hour minute second nanos : Nat} (hhour : hour < 24)
    (hminute : minute < 60) (hsecond : second ≤ 60) (hnanos : nanos < 1000000000) :
    ∃ t, ofClock? hour minute second nanos = some t := by
  by_cases hleap : second = 60
  · simp only [ofClock?, hleap, if_true]
    exact ⟨_, dif_pos (by omega)⟩
  · simp only [ofClock?, hleap, if_false]
    exact ⟨_, dif_pos (by omega)⟩

namespace Reading

variable {r : Reading} {d : Day} {i : Instant} {t : TimeOfDay} {pattern text : List Char}

/-- A reading gathers a text if it holds what each item of the pattern, taken alone where it stands
in the text, finds there. -/
def Gathers (r : Reading) (pattern text : List Char) : Prop :=
  ∀ {before item after}, Item.ofPattern pattern = before ++ item :: after →
    ∃ middle left alone rest, scanItems before .empty text = .ok (middle, left) ∧
      item.scan .empty left = .ok (alone, rest) ∧ alone.Within r

theorem gathers_of_ofText (h : ofText pattern text = .ok r) : r.Gathers pattern text := by
  intro before item after hitems
  obtain ⟨middle, left, next, rest, hbefore, hitem, hkept⟩ := exists_scan_of_ofText h hitems
  have hempty : Reading.empty.Within middle := by
    intro _ _ hnone
    cases hnone
  obtain ⟨alone, halone, hwithin⟩ := Item.scan_within hempty hitem
  exact ⟨middle, left, alone, rest, hbefore, halone,
    fun part value hvalue => hkept part value (hwithin part value hvalue)⟩

/-- A text that is read by a pattern that asks for a time of day states a part of one. -/
theorem exists_clock_part (h : ofText pattern text = .ok r)
    (hclock : .unknown ∈ Item.ofPattern pattern ∨
      ∃ item ∈ Item.ofPattern pattern, ∃ part ∈ item.parts, part ∈ Part.ofClock) :
    ∃ part ∈ Part.ofClock, (r.get? part).isSome := by
  rcases hclock with hunknown | ⟨item, hmem, part, hpart, hclock⟩
  · exact absurd hunknown (unknown_notMem (scanItems_of_ofText h))
  · obtain ⟨before, after, hitems⟩ := List.append_of_mem hmem
    obtain ⟨_, _, next, _, _, hitem, hkept⟩ := exists_scan_of_ofText h hitems
    have hne : part ≠ .nanosecond := by
      rintro rfl
      exact absurd hclock (by decide)
    obtain ⟨value, hvalue⟩ := Option.isSome_iff_exists.mp (Item.isSome_of_scan hitem hpart hne)
    exact ⟨part, hclock, Option.isSome_iff_exists.mpr ⟨value, hkept part value hvalue⟩⟩

/-- A reading tells the time if it has the hour with its half of the day, and the minute. A
fraction of a second needs the second too. -/
def TellsTime (r : Reading) : Prop :=
  (r.get? .half).isSome ∧ (r.get? .hourOfHalf).isSome ∧ (r.get? .minute).isSome ∧
    ((r.get? .nanosecond).isSome → (r.get? .second).isSome)

/-- A part that may be missing is within its bounds when it is taken as zero then. -/
theorem Bounded.getD_zero (h : r.Bounded) (part : Part) (hleast : part.bounds.1 ≤ 0)
    (hgreatest : 0 ≤ part.bounds.2) :
    part.bounds.1 ≤ (r.get? part).getD 0 ∧ (r.get? part).getD 0 ≤ part.bounds.2 := by
  cases hvalue : r.get? part with
  | none => exact ⟨hleast, hgreatest⟩
  | some value => exact h.bounds hvalue

theorem exists_time (hbounded : r.Bounded) (h : r.TellsTime) : ∃ t, r.time = .ok t := by
  obtain ⟨hhalf, hhour, hminute, hfraction⟩ := h
  obtain ⟨half, hhalf⟩ := Option.isSome_iff_exists.mp hhalf
  obtain ⟨hour, hhour⟩ := Option.isSome_iff_exists.mp hhour
  obtain ⟨minute, hminute⟩ := Option.isSome_iff_exists.mp hminute
  have hclock : ∃ t, TimeOfDay.ofClock? (half * 12 + hour).toNat minute.toNat
      ((r.get? .second).getD 0).toNat ((r.get? .nanosecond).getD 0).toNat = some t := by
    have hhalfBounds := hbounded.bounds hhalf
    have hhourBounds := hbounded.bounds hhour
    have hminuteBounds := hbounded.bounds hminute
    have hsecond := hbounded.getD_zero .second (by decide) (by decide)
    have hnanos := hbounded.getD_zero .nanosecond (by decide) (by decide)
    simp only [Part.bounds] at hhalfBounds hhourBounds hminuteBounds hsecond hnanos
    apply TimeOfDay.exists_ofClock? <;> omega
  obtain ⟨t, hclock⟩ := hclock
  refine ⟨t, ?_⟩
  unfold time
  rw [hhalf, hhour, hminute]
  cases hsecond : r.get? .second with
  | none =>
      cases hnanos : r.get? .nanosecond with
      | none =>
          rw [hsecond, hnanos] at hclock
          exact orFault_eq_ok.mpr hclock
      | some nanos =>
          rw [hsecond, hnanos] at hfraction
          exact absurd (hfraction rfl) Bool.false_ne_true
  | some second =>
      rw [hsecond] at hclock
      exact orFault_eq_ok.mpr hclock

theorem tellsTime_of_time (h : r.time = .ok t) : r.TellsTime := by
  unfold time at h
  split at h
  · cases h
  · next hhalf hhour hminute hclosed =>
    refine ⟨by rw [hhalf]; rfl, by rw [hhour]; rfl, by rw [hminute]; rfl, ?_⟩
    intro hfraction
    obtain ⟨nanos, hnanos⟩ := Option.isSome_iff_exists.mp hfraction
    cases hsecond : r.get? .second with
    | none => exact (hclosed nanos hsecond hnanos).elim
    | some second => rfl
  · cases h

theorem tellsTime_iff (hbounded : r.Bounded) : r.TellsTime ↔ ∃ t, r.time = .ok t :=
  ⟨exists_time hbounded, fun ⟨_, htime⟩ => tellsTime_of_time htime⟩

/-- Clocks with the stated offset show a time of day at an instant. Without an offset they show
coordinated universal time. -/
def Shows (r : Reading) (i : Instant) (t : TimeOfDay) : Prop :=
  (i.seconds + (r.get? .offset).getD 0) % 86400 = t.second ∧ i.nanos = t.nanos

/-- An offset leaves the time of day as it was stated if an instant is named at it, and also if it
is dropped and consists of whole days. -/
def OffsetFits (r : Reading) : Prop :=
  ∀ offset, r.get? .offset = some offset → (∃ i, r.NamesAtOffset i) ∨ offset % 86400 = 0

theorem shows_of_namesAtOffset (hnames : r.NamesAtOffset i) (htime : r.time = .ok t) :
    r.Shows i t := by
  obtain ⟨d, named, offset, _, hnamed, hoffset, _, _, hseconds, hnanos⟩ := hnames
  cases htime.symm.trans hnamed
  have hlt := t.second_lt
  refine ⟨?_, hnanos⟩
  rw [hoffset, Option.getD_some]
  omega

theorem shows_ofDay_iff : r.Shows (.ofDay d t) t ↔ (r.get? .offset).getD 0 % 86400 = 0 := by
  have hlt := t.second_lt
  simp only [Shows, Instant.ofDay, and_true]
  omega

/-- A day and a time name an instant, and the stated time is shown at it if the offset fits. -/
theorem exists_instant_shows_iff (hfree : r.get? .timestamp = none) (hday : r.day = .ok d)
    (htime : r.time = .ok t) : ∃ i, r.instant = .ok i ∧ (r.Shows i t ↔ r.OffsetFits) := by
  by_cases hnamed : ∃ i, r.NamesAtOffset i
  · obtain ⟨i, hnames⟩ := hnamed
    exact ⟨i, instant_of_namesAtOffset hfree hnames,
      iff_of_true (shows_of_namesAtOffset hnames htime) fun _ _ => .inl ⟨i, hnames⟩⟩
  · have hnone : ∀ i, ¬ r.NamesAtOffset i := fun i hi => hnamed ⟨i, hi⟩
    have hinstant := instant_of_unnamed hfree hday hnone
    rw [htime] at hinstant
    refine ⟨.ofDay d t, hinstant, ?_⟩
    rw [shows_ofDay_iff]
    cases hoffset : r.get? .offset with
    | none => simp [OffsetFits, hoffset]
    | some offset => simp [OffsetFits, hoffset, hnamed]

/-- A day without the time names its midnight. -/
theorem instant_of_not_tellsTime (hfree : r.get? .timestamp = none) (hday : r.day = .ok d)
    (h : ¬ r.TellsTime) : r.instant = .ok (.ofDay d .midnight) := by
  have hnone : ∀ i, ¬ r.NamesAtOffset i := by
    rintro i ⟨_, t, _, _, htime, _⟩
    exact h (tellsTime_of_time htime)
  rw [instant_of_unnamed hfree hday hnone]
  cases htime : r.time with
  | error _ => rfl
  | ok t => exact absurd (tellsTime_of_time htime) h

end Reading
end Calendar

namespace DateFormat

open Calendar

section Read

variable {pattern text : String} {r : Reading} {d : Day} {t : TimeOfDay}

theorem parse_of_not_tellsTime (hread : Reading.ofText pattern.toList text.toList = .ok r)
    (htimestamp : ∀ item ∈ Item.ofPattern pattern.toList, .timestamp ∉ item.parts)
    (hday : r.day = .ok d) (h : ¬ r.TellsTime) :
    parse (.pattern pattern) text = .ok (.ofDay d .midnight) := by
  have hfree := Reading.get?_eq_none_of_ofText hread htimestamp
  rw [parse_of_ofText hread, Reading.instant_of_not_tellsTime hfree hday h]
  rfl

theorem exists_parse_shows_iff (hread : Reading.ofText pattern.toList text.toList = .ok r)
    (htimestamp : ∀ item ∈ Item.ofPattern pattern.toList, .timestamp ∉ item.parts)
    (hday : r.day = .ok d) (htime : r.time = .ok t) :
    ∃ i, parse (.pattern pattern) text = .ok i ∧ (r.Shows i t ↔ r.OffsetFits) := by
  have hfree := Reading.get?_eq_none_of_ofText hread htimestamp
  obtain ⟨i, hinstant, hshows⟩ := Reading.exists_instant_shows_iff hfree hday htime
  refine ⟨i, ?_, hshows⟩
  rw [parse_of_ofText hread, hinstant]
  rfl

end Read

/-- What becomes of the time of day when a pattern asks for one, and for no timestamp. A text that
is read states a part of it. Without a day the text is refused. With a day that does not come with
the whole time, it is not refused: the answer is midnight. With day and time, clocks with the
stated offset show every stated part of the time at the answer, if the offset fits. So the texts
whose time of day is kept are the ones that are refused for their day, and those that tell the time
with an offset that fits. -/
theorem time_of_day_kept_iff (pattern text : String)
    (hclock : .unknown ∈ Item.ofPattern pattern.toList ∨
      ∃ item ∈ Item.ofPattern pattern.toList, ∃ part ∈ item.parts, part ∈ Part.ofClock)
    (htimestamp : ∀ item ∈ Item.ofPattern pattern.toList, .timestamp ∉ item.parts) :
    (∀ r, Reading.ofText pattern.toList text.toList = .ok r →
        r.Gathers pattern.toList text.toList ∧
          (∃ part ∈ Part.ofClock, (r.get? part).isSome) ∧
          (r.TellsTime ↔ ∃ t, r.time = .ok t) ∧
          ∀ t part value, r.time = .ok t → part ∈ Part.ofTime → r.get? part = some value →
            t.part? part = some value) ∧
      (∀ fault, (Reading.ofText pattern.toList text.toList >>= Reading.day) = .error fault →
        parse (.pattern pattern) text = .error (.date text (.pattern pattern) fault)) ∧
      (∀ r d, Reading.ofText pattern.toList text.toList = .ok r → r.day = .ok d →
        (¬ r.TellsTime → parse (.pattern pattern) text = .ok (.ofDay d .midnight)) ∧
          ∀ t, r.time = .ok t →
            ∃ i, parse (.pattern pattern) text = .ok i ∧ (r.Shows i t ↔ r.OffsetFits)) ∧
      ((∀ i, parse (.pattern pattern) text = .ok i →
          ∃ r t, Reading.ofText pattern.toList text.toList = .ok r ∧ r.time = .ok t ∧
            r.Shows i t) ↔
        ∀ r d, Reading.ofText pattern.toList text.toList = .ok r → r.day = .ok d →
          r.TellsTime ∧ r.OffsetFits) := by
  have htells : ∀ {r}, Reading.ofText pattern.toList text.toList = .ok r →
      (r.TellsTime ↔ ∃ t, r.time = .ok t) := fun hread =>
    Reading.tellsTime_iff (Reading.bounded_of_ofText hread)
  refine ⟨?_, fun fault => parse_of_day_error htimestamp, ?_, ?_, ?_⟩
  · intro r hread
    refine ⟨Reading.gathers_of_ofText hread, Reading.exists_clock_part hread hclock, htells hread,
      ?_⟩
    intro t part value htime hpart hvalue
    exact Reading.part?_of_time (Reading.bounded_of_ofText hread) htime hpart hvalue
  · intro r d hread hday
    exact ⟨parse_of_not_tellsTime hread htimestamp hday,
      fun t => exists_parse_shows_iff hread htimestamp hday⟩
  · intro hkept r d hread hday
    have htime : r.TellsTime := by
      by_contra hnot
      obtain ⟨other, t, hother, htime, _⟩ :=
        hkept _ (parse_of_not_tellsTime hread htimestamp hday hnot)
      cases hread.symm.trans hother
      exact hnot (Reading.tellsTime_of_time htime)
    obtain ⟨t, ht⟩ := (htells hread).mp htime
    obtain ⟨i, hparse, hshows⟩ := exists_parse_shows_iff hread htimestamp hday ht
    obtain ⟨other, shown, hother, hshown, hkeeps⟩ := hkept i hparse
    cases hread.symm.trans hother
    cases ht.symm.trans hshown
    exact ⟨htime, hshows.mp hkeeps⟩
  · intro hall i hparse
    cases hday : Reading.ofText pattern.toList text.toList >>= Reading.day with
    | error fault =>
        rw [parse_of_day_error htimestamp hday] at hparse
        cases hparse
    | ok d =>
        obtain ⟨r, hread, hrd⟩ := exists_of_bind_eq_ok hday
        obtain ⟨htime, hfits⟩ := hall r d hread hrd
        obtain ⟨t, ht⟩ := (htells hread).mp htime
        obtain ⟨named, hnamed, hshows⟩ := exists_parse_shows_iff hread htimestamp hrd ht
        cases hnamed.symm.trans hparse
        exact ⟨r, t, hread, ht, hshows.mpr hfits⟩

/-- A date and a time of day in seconds, with an offset. -/
def secondsPattern : String := "%Y-%m-%dT%H:%M:%S %z"

theorem items_secondsPattern :
    Item.ofPattern secondsPattern.toList =
      [.year, .literal ['-'], .digits .month 2, .literal ['-'], .digits .dayOfMonth 2,
        .literal ['T'], .hour, .literal [':'], .digits .minute 2, .literal [':'],
        .digits .second 2, .blanks, .offset false] := by
  cbv

/-- A leap second is shown as second 60 by clocks with any offset. -/
theorem time_of_day_kept_leap :
    ∃ r i t, Reading.ofText secondsPattern.toList "2016-12-31T18:59:60 -0500".toList = .ok r ∧
      parse (.pattern secondsPattern) "2016-12-31T18:59:60 -0500" = .ok i ∧ r.Shows i t ∧
      t.part? .minute = some 59 ∧ t.part? .second = some 60 ∧ i.seconds % 86400 = 86399 := by
  have hread : ∃ r,
      Reading.ofText secondsPattern.toList "2016-12-31T18:59:60 -0500".toList = .ok r ∧
      r.day = .ok ⟨17166, by decide, by decide⟩ ∧
      r.time = .ok ⟨68399, 1000000000, by decide, by decide, by decide⟩ ∧
      r.get? .offset = some (-18000) := by
    simp only [Reading.ofText, items_secondsPattern]
    exact ⟨_, rfl, rfl, rfl, rfl⟩
  obtain ⟨r, hread, hday, htime, hoffset⟩ := hread
  have hclock : ∃ item ∈ Item.ofPattern secondsPattern.toList, ∃ part ∈ item.parts,
      part ∈ Part.ofClock := by
    rw [items_secondsPattern]
    decide
  have htimestamp : ∀ item ∈ Item.ofPattern secondsPattern.toList, .timestamp ∉ item.parts := by
    rw [items_secondsPattern]
    decide
  have hnames : r.NamesAtOffset
      ⟨1483228799, 1000000000, by decide, by decide, by decide, by decide⟩ :=
    ⟨_, _, -18000, hday, htime, hoffset, by decide, by decide, by decide, rfl⟩
  obtain ⟨_, _, hanswer, _⟩ := time_of_day_kept_iff secondsPattern "2016-12-31T18:59:60 -0500"
    (.inr hclock) htimestamp
  obtain ⟨i, hparse, hshows⟩ := (hanswer r _ hread hday).2 _ htime
  have hshown := hshows.mpr fun _ _ => .inl ⟨_, hnames⟩
  refine ⟨r, i, _, hread, hparse, hshown, rfl, rfl, ?_⟩
  have hclockTime := hshown.1
  rw [hoffset, Option.getD_some] at hclockTime
  dsimp only at hclockTime
  omega

/-- A date and a time of a twelve-hour clock, without the half of the day. -/
def twelveHourPattern : String := "%Y-%m-%d %I:%M"

theorem items_twelveHourPattern :
    Item.ofPattern twelveHourPattern.toList =
      [.year, .literal ['-'], .digits .month 2, .literal ['-'], .digits .dayOfMonth 2, .blanks,
        .number .hourOfTwelve (some 2) false, .literal [':'], .digits .minute 2] := by
  cbv

/-- An hour that may lie in either half of the day is dropped together with its minute. -/
theorem time_of_day_dropped :
    (∃ item ∈ Item.ofPattern twelveHourPattern.toList, ∃ part ∈ item.parts,
        part ∈ Part.ofClock) ∧
      (∀ item ∈ Item.ofPattern twelveHourPattern.toList, .timestamp ∉ item.parts) ∧
      ∃ r i, Reading.ofText twelveHourPattern.toList "2024-01-29 11:30".toList = .ok r ∧
        r.get? .hourOfHalf = some 11 ∧ r.get? .minute = some 30 ∧ r.time = .error .notEnough ∧
        parse (.pattern twelveHourPattern) "2024-01-29 11:30" = .ok i ∧ i.time = .midnight := by
  have hread : ∃ r, Reading.ofText twelveHourPattern.toList "2024-01-29 11:30".toList = .ok r ∧
      r.get? .hourOfHalf = some 11 ∧ r.get? .minute = some 30 ∧ r.time = .error .notEnough ∧
      r.instant = .ok ⟨1706486400, 0, by decide, by decide, by decide, by decide⟩ := by
    simp only [Reading.ofText, items_twelveHourPattern]
    exact ⟨_, rfl, rfl, rfl, rfl, rfl⟩
  obtain ⟨r, hread, hhour, hminute, htime, hinstant⟩ := hread
  have hparse := parse_of_ofText hread
  rw [hinstant] at hparse
  rw [items_twelveHourPattern]
  exact ⟨by decide, by decide, r, _, hread, hhour, hminute, htime, hparse, rfl⟩

end DateFormat
end QueryFilter
