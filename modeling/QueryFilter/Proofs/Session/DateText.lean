import QueryFilter.Proofs.Calendar.Rendered
import QueryFilter.Proofs.Session.Refusal

/-!
Dates rendered and given back. The text that an instant is rendered as may be given to a test on a
date field in place of the instant, as long as the format of the test reads such text.
-/

namespace QueryFilter

open Calendar (Instant)

namespace Builder

/-- An instant of the years 0 to 9999 is rendered as a text that the standard format reads as that
instant. On every builder, comparing with the text is comparing with the instant, and the text
may be either end of a range. -/
theorem rendered_date_read_back (i : Instant) (hnonneg : 0 ≤ i.day.year)
    (hlt : i.day.year ≤ 9999) :
    ∃ text, (Value.instant i).toJson = .object [("$date", .string text)] ∧
      DateFormat.rfc3339.parse text = .ok i ∧
      ∀ (b : Builder) (key : String) (format : FormatChoice),
        b.formatFor format = .rfc3339 →
          (∀ c, b.answer (.date key format (.compareText c text)) = .done ∧
            b.apply (.date key format (.compareText c text)) =
              b.apply (.date key format (.compare c i))) ∧
          ∀ other j, DateFormat.rfc3339.parse other = .ok j →
            b.apply (.date key format (.betweenText text other)) =
              b.apply (.date key format (.between i j)) ∧
            b.apply (.date key format (.betweenText other text)) =
              b.apply (.date key format (.between j i)) := by
  have hparse := DateFormat.parse_toRfc3339 hnonneg hlt
  refine ⟨i.toRfc3339, rfl, hparse, ?_⟩
  intro b key format hformat
  rw [← hformat] at hparse ⊢
  refine ⟨?_, ?_⟩
  · intro c
    have hcall := b.compareText_call key format c i.toRfc3339
    rw [hparse] at hcall
    exact hcall
  · intro other j hother
    have hfirst := b.betweenText_call key format i.toRfc3339 other
    have hlast := b.betweenText_call key format other i.toRfc3339
    rw [hparse, hother] at hfirst
    rw [hparse, hother] at hlast
    exact ⟨hfirst.2, hlast.2⟩

/-- The leap day of year 0, long before 1970, in a leap second. -/
theorem rendered_date_read_back_leap :
    let i : Instant := ⟨-62162035201, 1000000001, by decide, by decide, by decide, by decide⟩
    (0 ≤ i.day.year ∧ i.day.year ≤ 9999) ∧
      DateFormat.rfc3339.parse "0000-02-29T23:59:60.000000001Z" = .ok i := by
  intro i
  have hnonneg : 0 ≤ i.day.year := by decide
  have hlt : i.day.year ≤ 9999 := by decide
  obtain ⟨text, hjson, hparse, _⟩ := rendered_date_read_back i hnonneg hlt
  have hwritten : i.toRfc3339 = "0000-02-29T23:59:60.000000001Z" := by decide
  rw [Value.toJson, hwritten] at hjson
  cases hjson
  exact ⟨⟨hnonneg, hlt⟩, hparse⟩

end Builder
end QueryFilter
