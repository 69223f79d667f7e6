import QueryFilter.Proofs.Calendar.Offset
import QueryFilter.Proofs.Calendar.Written
import QueryFilter.Value.Json

/-!
Rendered instants read by patterns and as timestamps. The pattern of the rendered form reads every
instant back. What stands before the mark of the time is a date without a time and without an
offset, and the pattern of a date takes it as midnight. A timestamp has no sign before its year, so
RFC 3339 reads the rendered instants of the years 0 to 9999 only, and those alike.
-/

namespace QueryFilter
namespace Calendar

open Text

theorem isDigit_or_sign_of_mem_writeDate (d : Day) :
    ∀ c ∈ writeDate d, c.isDigit = true ∨ c = '-' ∨ c = '+' := by
  have hdigits : ∀ c ∈ yearDigits d.year, c.isDigit = true ∨ c = '-' ∨ c = '+' :=
    fun c hc => .inl (isDigit_of_mem_yearDigits _ c hc)
  have hyear : ∀ c ∈ writeYear d.year, c.isDigit = true ∨ c = '-' ∨ c = '+' := by
    rw [writeYear_eq]
    split
    · exact List.forall_mem_cons.mpr ⟨.inr (.inl rfl), hdigits⟩
    · split
      · exact List.forall_mem_cons.mpr ⟨.inr (.inr rfl), hdigits⟩
      · exact hdigits
  have hpart : ∀ n, ∀ c ∈ '-' :: padded 2 n, c.isDigit = true ∨ c = '-' ∨ c = '+' := fun n =>
    List.forall_mem_cons.mpr ⟨.inr (.inl rfl), fun _ hc => .inl (isDigit_of_mem_padded hc)⟩
  exact List.forall_mem_append.mpr
    ⟨List.forall_mem_append.mpr ⟨hyear, hpart d.month⟩, hpart d.dayOfMonth⟩

theorem scanFixed_succ_of_not_digit {c : Char} (h : c.isDigit = false) (count : Nat)
    (rest : List Char) : ∃ fault, scanFixed (count + 1) (c :: rest) = .error fault := by
  rw [scanFixed]
  split
  · exact ⟨_, rfl⟩
  · rw [if_neg]
    · exact ⟨_, rfl⟩
    · simp [h]

namespace Reading

variable (d : Day)

theorem get?_ofWrittenDate_eq_none {part : Part} (h : part ∉ [.year, .month, .dayOfMonth]) :
    (ofWrittenDate d).get? part = none := by
  simp only [List.mem_cons, List.not_mem_nil, or_false, not_or] at h
  simp [ofWrittenDate, set, empty, h]

theorem day_ofWrittenDate : (ofWrittenDate d).day = .ok d := by
  apply day_of_views rfl rfl rfl
  intro part _ hyear hmonth hday
  exact get?_ofWrittenDate_eq_none d (by simp [hyear, hmonth, hday])

/-- A date without a time of day names its midnight. -/
theorem instant_ofWrittenDate : (ofWrittenDate d).instant = .ok (.ofDay d .midnight) := by
  have htime : (ofWrittenDate d).time = .error .notEnough := rfl
  have hunnamed : ∀ i, ¬ (ofWrittenDate d).NamesAtOffset i := by
    rintro i ⟨_, _, offset, _, hstated, _⟩
    rw [htime] at hstated
    cases hstated
  have hread := instant_of_unnamed rfl (day_ofWrittenDate d) hunnamed
  rw [htime] at hread
  exact hread

end Reading

namespace Instant

/-- The pattern of a date as it stands in a rendered instant. -/
def datePattern : String := "%Y-%m-%d"

theorem items_datePattern : Item.ofPattern datePattern.toList = Item.writtenDate := by
  cbv

theorem ofPattern_writeDate (d : Day) :
    ofPattern datePattern (.ofList (writeDate d)) = .ok (.ofDay d .midnight) := by
  have hdate := scanItems_writeDate d [] []
  rw [List.append_nil, List.append_nil] at hdate
  have hread : Reading.ofText datePattern.toList (writeDate d) = .ok (.ofWrittenDate d) := by
    rw [Reading.ofText, items_datePattern, hdate]
    rfl
  rw [ofPattern, String.toList_ofList, hread]
  exact Reading.instant_ofWrittenDate d

/-- The first T in a rendered instant is the mark between its date and its time. -/
theorem takeWhile_toRfc3339 (i : Instant) :
    i.toRfc3339.toList.takeWhile (· ≠ 'T') = writeDate i.day := by
  have hplain : ∀ c ∈ writeDate i.day, decide (c ≠ 'T') = true := by
    intro c hc
    rw [decide_eq_true_iff]
    rintro rfl
    exact absurd (isDigit_or_sign_of_mem_writeDate i.day 'T' hc) (by decide)
  rw [toRfc3339, String.toList_ofList, List.append_assoc, List.takeWhile_append_of_pos hplain,
    List.cons_append, List.takeWhile_cons_of_neg (by decide), List.append_nil]

/-- A timestamp begins with a digit. -/
theorem ofRfc3339_of_not_digit {text : String} {c : Char} {rest : List Char}
    (h : c.isDigit = false) (htext : text.toList = c :: rest) :
    ∃ fault, ofRfc3339 text = .error fault := by
  obtain ⟨fault, hyear⟩ := scanFixed_succ_of_not_digit h 3 rest
  rw [ofRfc3339, htext]
  simp only [scanDate, hyear, bind, Except.bind]
  split
  · exact ⟨_, rfl⟩
  · exact ⟨_, rfl⟩

theorem ofRfc3339_toRfc3339_of_signed {i : Instant} (h : i.day.year < 0 ∨ 9999 < i.day.year) :
    ∃ fault, ofRfc3339 i.toRfc3339 = .error fault := by
  have hsigned : ∃ sign digits, sign.isDigit = false ∧ writeYear i.day.year = sign :: digits := by
    rw [writeYear_eq]
    split
    · exact ⟨'-', _, rfl, rfl⟩
    · next hnonneg =>
      rw [if_pos (h.resolve_left hnonneg)]
      exact ⟨'+', _, rfl, rfl⟩
  obtain ⟨sign, digits, hsign, hyear⟩ := hsigned
  apply ofRfc3339_of_not_digit hsign
  rw [toRfc3339, String.toList_ofList, writeDate, hyear]
  rfl

end Instant
end Calendar

namespace DateFormat

open Calendar (Instant)

variable {pattern text : String} {i : Instant}

theorem parse_eq_ok_of_ofPattern (h : Instant.ofPattern pattern text = .ok i) :
    parse (.pattern pattern) text = .ok i := by
  simp only [parse, h]
  rfl

theorem parse_toRfc3339 (hnonneg : 0 ≤ i.day.year) (hlt : i.day.year ≤ 9999) :
    rfc3339.parse i.toRfc3339 = .ok i := by
  simp only [parse, Instant.ofRfc3339_toRfc3339 hnonneg hlt]
  rfl

/-- The pattern of the rendered form and RFC 3339 part where years are written with a sign. -/
theorem parse_toRfc3339_iff :
    rfc3339.parse i.toRfc3339 = .ok i ↔ 0 ≤ i.day.year ∧ i.day.year ≤ 9999 := by
  refine ⟨fun hread => ?_, fun h => parse_toRfc3339 h.1 h.2⟩
  by_contra hout
  have hsigned : i.day.year < 0 ∨ 9999 < i.day.year := by omega
  obtain ⟨fault, hfault⟩ := Instant.ofRfc3339_toRfc3339_of_signed hsigned
  simp only [parse, hfault] at hread
  cases hread

/-- Every instant is rendered as a text that the pattern of the rendered form reads as that
instant. The pattern of a date reads what stands before the first T of the text as midnight of the
same day. On that text the pattern and RFC 3339 agree for the years 0 to 9999 and no others. -/
theorem rendered_read_by_pattern (i : Instant) :
    ∃ text, (Value.instant i).toJson = .object [("$date", .string text)] ∧
      parse (.pattern "%Y-%m-%dT%H:%M:%S%.fZ") text = .ok i ∧
      parse (.pattern "%Y-%m-%d") (.ofList (text.toList.takeWhile (· ≠ 'T'))) =
        .ok (.ofDay i.day .midnight) ∧
      (parse (.pattern "%Y-%m-%dT%H:%M:%S%.fZ") text = rfc3339.parse text ↔
        0 ≤ i.day.year ∧ i.day.year ≤ 9999) := by
  have hread : parse (.pattern Instant.writtenPattern) i.toRfc3339 = .ok i :=
    parse_eq_ok_of_ofPattern i.ofPattern_toRfc3339
  refine ⟨i.toRfc3339, rfl, hread, ?_, ?_⟩
  · rw [i.takeWhile_toRfc3339]
    exact parse_eq_ok_of_ofPattern (Instant.ofPattern_writeDate i.day)
  · rw [← parse_toRfc3339_iff]
    constructor
    · exact fun hsame => hsame.symm.trans hread
    · exact fun hstandard => hread.trans hstandard.symm

example : (⟨Calendar.lastSecond, 1999000000, by decide, by decide, by decide, by decide⟩ :
    Instant).toRfc3339 = "+262142-12-31T23:59:60.999Z" := by
  decide

end DateFormat
end QueryFilter
