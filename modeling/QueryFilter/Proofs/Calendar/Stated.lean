import QueryFilter.Calendar.Resolve
import QueryFilter.Proofs.Calendar.Civil

/-!
What a text states when it is read by a pattern. Taking an item notes values for the parts of that
item and for no others, and a note never takes back what is known. A reading therefore holds what
each item found where it stood, and the day and the time that it names show every part that was
stated.
-/

namespace QueryFilter
namespace Calendar

def Quantity.parts : Quantity → List Part
  | .part stated => [stated]
  | .hour => [.half, .hourOfHalf]
  | .hourOfTwelve => [.hourOfHalf]
  | .weekdayFromSunday | .weekdayFromMonday => [.weekday]

/-- The parts that an item can state. -/
def Item.parts : Item → List Part
  | .number quantity _ _ => quantity.parts
  | .monthName _ => [.month]
  | .weekdayName _ => [.weekday]
  | .half => [.half]
  | .fraction | .pointFraction _ | .bareFraction _ => [.nanosecond]
  | .offset _ | .zone => [.offset]
  | .blanks | .literal _ | .zoneName | .dateMark | .unknown => []

theorem exists_of_bind_eq_ok {ε α β : Type} {x : Except ε α} {f : α → Except ε β}
    {b : β} (h : x >>= f = .ok b) : ∃ a, x = .ok a ∧ f a = .ok b := by
  cases x with
  | error _ => cases h
  | ok a => exact ⟨a, rfl, h⟩

namespace Reading

variable {r r₁ r₂ : Reading} {parts more : List Part}

/-- The growth of a reading by notes of some parts. What was known is kept, and what is new
belongs to one of the parts and lies within its bounds. -/
structure Grows (parts : List Part) (r r' : Reading) : Prop where
  kept : ∀ {part value}, r.get? part = some value → r'.get? part = some value
  apart : ∀ {part}, part ∉ parts → r'.get? part = r.get? part
  bounded : ∀ {part value}, r'.get? part = some value →
    r.get? part = some value ∨ part.admits value = true

namespace Grows

theorem refl (r : Reading) : Grows parts r r where
  kept h := h
  apart _ := rfl
  bounded h := .inl h

theorem trans (first : Grows parts r r₁) (last : Grows more r₁ r₂) :
    Grows (parts ++ more) r r₂ where
  kept h := last.kept (first.kept h)
  apart h := by
    rw [List.mem_append, not_or] at h
    rw [last.apart h.2, first.apart h.1]
  bounded h := by
    rcases last.bounded h with hold | hnew
    · exact first.bounded hold
    · exact .inr hnew

theorem note {part : Part} {value : Int} (h : r.note part value = .ok r₁) :
    Grows [part] r r₁ := by
  unfold Reading.note at h
  split at h
  · cases h
  · next hadmits =>
    split at h
    · next hnone =>
      cases h
      refine ⟨?_, ?_, ?_⟩
      · intro other known hknown
        have hne : other ≠ part := by
          rintro rfl
          rw [hnone] at hknown
          cases hknown
        rw [get?_set_of_ne r value hne, hknown]
      · intro other hother
        exact get?_set_of_ne r value (by simpa using hother)
      · intro other known hknown
        by_cases hother : other = part
        · subst hother
          rw [get?_set_self] at hknown
          cases hknown
          exact .inr (by simpa using hadmits)
        · rw [get?_set_of_ne r value hother] at hknown
          exact .inl hknown
    · split at h
      · cases h
        exact .refl r
      · cases h

theorem noteHour {hour : Int} (h : r.noteHour hour = .ok r₁) :
    Grows [.half, .hourOfHalf] r r₁ := by
  unfold Reading.noteHour at h
  split at h
  · cases h
  · obtain ⟨_, hhalf, hhour⟩ := exists_of_bind_eq_ok h
    exact (Grows.note hhalf).trans (Grows.note hhour)

theorem noteQuantity {quantity : Quantity} {value : Int}
    (h : r.noteQuantity quantity value = .ok r₁) : Grows quantity.parts r r₁ := by
  cases quantity with
  | part part => exact Grows.note h
  | hour => exact Grows.noteHour h
  | hourOfTwelve =>
      simp only [Reading.noteQuantity, noteHourOfTwelve] at h
      split at h
      · cases h
      · exact Grows.note h
  | weekdayFromSunday =>
      simp only [Reading.noteQuantity, noteWeekdayFromSunday] at h
      split at h
      · cases h
      · exact Grows.note h
  | weekdayFromMonday =>
      simp only [Reading.noteQuantity, noteWeekdayFromMonday] at h
      split at h
      · cases h
      · exact Grows.note h

end Grows
end Reading

section Scanning

variable {r r' : Reading} {text rest : List Char}

/-- An item that reads a value and notes it grows the reading as that note does. -/
theorem grows_of_scan_note {α : Type} {parts : List Part}
    {found : Except DateFault (α × List Char)} (note : α → Except DateFault Reading)
    (hnote : ∀ a, note a = .ok r' → r.Grows parts r')
    (h : (do let (a, rest) ← found; pure (← note a, rest)) = .ok (r', rest)) :
    r.Grows parts r' := by
  obtain ⟨⟨a, _⟩, _, h⟩ := exists_of_bind_eq_ok h
  obtain ⟨_, hnoted, hpair⟩ := exists_of_bind_eq_ok h
  cases hpair
  exact hnote a hnoted

theorem Item.grows_scan {item : Item} (h : item.scan r text = .ok (r', rest)) :
    r.Grows item.parts r' := by
  cases item with
  | blanks | zoneName =>
      cases h
      exact .refl r
  | literal expected =>
      simp only [scan] at h
      split at h
      · cases h
      · split at h
        · cases h
          exact .refl r
        · cases h
  | number quantity limit signed =>
      exact grows_of_scan_note (r.noteQuantity quantity) (fun _ => .noteQuantity) h
  | monthName long =>
      exact grows_of_scan_note (fun index : Nat => r.note .month (index + 1)) (fun _ => .note) h
  | weekdayName long =>
      exact grows_of_scan_note (fun index : Nat => r.note .weekday index) (fun _ => .note) h
  | half => exact grows_of_scan_note (fun index : Nat => r.note .half index) (fun _ => .note) h
  | fraction =>
      simp only [scan] at h
      split at h
      · exact grows_of_scan_note (fun nanos : Nat => r.note .nanosecond nanos) (fun _ => .note) h
      · cases h
        exact .refl r
  | pointFraction count =>
      simp only [scan] at h
      split at h
      · exact grows_of_scan_note (fun nanos : Nat => r.note .nanosecond nanos) (fun _ => .note) h
      · cases h
        exact .refl r
  | bareFraction count =>
      exact grows_of_scan_note (fun nanos : Nat => r.note .nanosecond nanos) (fun _ => .note) h
  | offset lenient => exact grows_of_scan_note (r.note .offset) (fun _ => .note) h
  | dateMark =>
      obtain ⟨_, _, hpair⟩ := exists_of_bind_eq_ok h
      cases hpair
      exact .refl r
  | zone => exact grows_of_scan_note (r.note .offset) (fun _ => .note) h
  | unknown => cases h

/-- A text read by a row of items is read by the first of them, and what follows by the others. -/
theorem exists_of_scanItems_append {before after : List Item}
    (h : scanItems (before ++ after) r text = .ok (r', rest)) :
    ∃ middle left, scanItems before r text = .ok (middle, left) ∧
      scanItems after middle left = .ok (r', rest) := by
  induction before generalizing r text with
  | nil => exact ⟨r, text, rfl, h⟩
  | cons item items ih =>
      obtain ⟨⟨next, left⟩, hitem, hrest⟩ := exists_of_bind_eq_ok h
      obtain ⟨middle, left', hbefore, hafter⟩ := ih hrest
      refine ⟨middle, left', ?_, hafter⟩
      simp only [scanItems, hitem]
      exact hbefore

theorem grows_scanItems {items : List Item} (h : scanItems items r text = .ok (r', rest)) :
    r.Grows (items.flatMap Item.parts) r' := by
  induction items generalizing r text with
  | nil =>
      cases h
      exact .refl r'
  | cons item items ih =>
      obtain ⟨⟨next, left⟩, hitem, hrest⟩ := exists_of_bind_eq_ok h
      exact (Item.grows_scan hitem).trans (ih hrest)

theorem scan_offset {lenient : Bool} (h : (Item.offset lenient).scan r text = .ok (r', rest)) :
    ∃ seconds, scanOffset (patternOffset lenient) (Text.skipBlanks text) = .ok (seconds, rest) ∧
      r'.get? .offset = some seconds := by
  obtain ⟨⟨seconds, left⟩, hscan, h⟩ := exists_of_bind_eq_ok h
  obtain ⟨_, hnote, hpair⟩ := exists_of_bind_eq_ok h
  cases hpair
  exact ⟨seconds, hscan, Reading.get?_of_note hnote⟩

theorem unknown_notMem {items : List Item} (h : scanItems items r text = .ok (r', rest)) :
    .unknown ∉ items := by
  induction items generalizing r text with
  | nil => exact List.not_mem_nil
  | cons item items ih =>
      obtain ⟨⟨next, left⟩, hitem, hrest⟩ := exists_of_bind_eq_ok h
      rw [List.mem_cons, not_or]
      refine ⟨?_, ih hrest⟩
      rintro rfl
      cases hitem

end Scanning

section Naming

variable {pattern text : List Char} {r : Reading} {d : Day} {t : TimeOfDay}

theorem scanItems_of_ofText (h : Reading.ofText pattern text = .ok r) :
    scanItems (Item.ofPattern pattern) .empty text = .ok (r, []) := by
  obtain ⟨⟨read, left⟩, hscan, h⟩ := exists_of_bind_eq_ok h
  dsimp only at h
  split at h
  · next hdone =>
    cases h
    cases hdone
    exact hscan
  · cases h

/-- Each item of the pattern is taken where it stands, and what it notes is known in the end. -/
theorem Reading.exists_scan_of_ofText (h : Reading.ofText pattern text = .ok r)
    {before after : List Item} {item : Item}
    (hitems : Item.ofPattern pattern = before ++ item :: after) :
    ∃ middle left next rest, scanItems before .empty text = .ok (middle, left) ∧
      item.scan middle left = .ok (next, rest) ∧
      ∀ part value, next.get? part = some value → r.get? part = some value := by
  have hscan := scanItems_of_ofText h
  rw [hitems] at hscan
  obtain ⟨middle, left, hbefore, hmiddle⟩ := exists_of_scanItems_append hscan
  obtain ⟨⟨next, rest⟩, hitem, hafter⟩ := exists_of_bind_eq_ok hmiddle
  refine ⟨middle, left, next, rest, hbefore, hitem, ?_⟩
  intro part value hvalue
  exact (grows_scanItems hafter).kept hvalue

/-- A text states only parts that some item of the pattern can state. -/
theorem Reading.get?_eq_none_of_ofText (h : Reading.ofText pattern text = .ok r) {part : Part}
    (hpart : ∀ item ∈ Item.ofPattern pattern, part ∉ item.parts) : r.get? part = none := by
  have hfree : part ∉ (Item.ofPattern pattern).flatMap Item.parts := by
    simpa using hpart
  exact (grows_scanItems (scanItems_of_ofText h)).apart hfree

def Reading.Bounded (r : Reading) : Prop :=
  ∀ part value, r.get? part = some value → part.admits value = true

theorem Reading.bounded_of_ofText (h : Reading.ofText pattern text = .ok r) : r.Bounded := by
  intro part value hvalue
  rcases (grows_scanItems (scanItems_of_ofText h)).bounded hvalue with hnone | hbounded
  · cases hnone
  · exact hbounded

theorem Reading.Bounded.bounds (h : r.Bounded) {part : Part} {value : Int}
    (hvalue : r.get? part = some value) : part.bounds.1 ≤ value ∧ value ≤ part.bounds.2 := by
  simpa [Part.admits] using h part value hvalue

theorem orFault_eq_ok {α : Type} {found : Option α} {fault : DateFault} {a : α} :
    orFault found fault = .ok a ↔ found = some a := by
  cases found <;> simp [orFault]

def Part.ofTime : List Part := [.half, .hourOfHalf, .minute, .second, .nanosecond]

/-- What a time of day says about a part of the time, a leap second being second 60. -/
def TimeOfDay.part? (t : TimeOfDay) : Part → Option Int
  | .half => some (t.second / 3600 / 12 : Nat)
  | .hourOfHalf => some (t.second / 3600 % 12 : Nat)
  | .minute => some (t.second / 60 % 60 : Nat)
  | .second => some t.shownSecond
  | .nanosecond => some t.shownNanos
  | _ => none

/-- A clock shows the time of day that it names. -/
theorem TimeOfDay.views_of_ofClock? {hour minute second nanos : Nat}
    (h : ofClock? hour minute second nanos = some t) :
    t.second / 3600 = hour ∧ t.second / 60 % 60 = minute ∧ t.shownSecond = second ∧
      t.shownNanos = nanos := by
  simp only [ofClock?, Option.dite_none_right_eq_some, Option.some.injEq] at h
  obtain ⟨hvalid, rfl⟩ := h
  by_cases hleap : second = 60
  · simp only [hleap, if_true] at hvalid
    simp only [shownSecond, shownNanos, hleap, if_true]
    split <;> omega
  · simp only [hleap, if_false] at hvalid
    simp only [shownSecond, shownNanos, hleap, if_false]
    split <;> omega

namespace Reading

theorem part?_of_day (h : r.day = .ok d) {part : Part} (hpart : part ∈ Part.ofDate) {value : Int}
    (hvalue : r.get? part = some value) : d.part? part = some value := by
  obtain ⟨_, _, h⟩ := exists_of_bind_eq_ok h
  obtain ⟨_, _, h⟩ := exists_of_bind_eq_ok h
  obtain ⟨named, _, h⟩ := exists_of_bind_eq_ok h
  split at h
  · next hagrees =>
    cases h
    have hequal := List.all_eq_true.mp hagrees part hpart
    simp only [hvalue, Option.isNone_some, Bool.false_or, beq_iff_eq] at hequal
    exact hequal.symm
  · cases h

theorem part?_of_time (hbounded : r.Bounded) (h : r.time = .ok t) {part : Part}
    (hpart : part ∈ Part.ofTime) {value : Int} (hvalue : r.get? part = some value) :
    t.part? part = some value := by
  unfold time at h
  split at h
  · cases h
  · next half hour minute hhalf hhour hminute _ =>
    have hclock := orFault_eq_ok.mp h
    obtain ⟨hhours, hminutes, hseconds, hfraction⟩ := TimeOfDay.views_of_ofClock? hclock
    have hbounds := hbounded.bounds hvalue
    have hhalfBounds := hbounded.bounds hhalf
    have hhourBounds := hbounded.bounds hhour
    simp only [Part.ofTime, List.mem_cons, List.not_mem_nil, or_false] at hpart
    simp only [Part.bounds] at hhalfBounds hhourBounds
    rcases hpart with rfl | rfl | rfl | rfl | rfl
    · cases hhalf.symm.trans hvalue
      simp only [TimeOfDay.part?, Option.some.injEq]
      omega
    · cases hhour.symm.trans hvalue
      simp only [TimeOfDay.part?, Option.some.injEq]
      omega
    · cases hminute.symm.trans hvalue
      simp only [TimeOfDay.part?, Part.bounds, Option.some.injEq] at hbounds ⊢
      omega
    · simp only [hvalue, Option.getD_some] at hseconds
      simp only [TimeOfDay.part?, Part.bounds, Option.some.injEq] at hbounds ⊢
      omega
    · simp only [hvalue, Option.getD_some] at hfraction
      simp only [TimeOfDay.part?, Part.bounds, Option.some.injEq] at hbounds ⊢
      omega
  · cases h

end Reading
end Naming
end Calendar
end QueryFilter
