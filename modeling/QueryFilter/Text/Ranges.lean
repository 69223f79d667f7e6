/-!
Sets of characters given as ranges of code points. A table lists its ranges in ascending
order, so a search stops at the first range that begins above the code point.
-/

namespace QueryFilter
namespace Text

/-- Ranges of code points in ascending order, both ends included. -/
abbrev Ranges := List (Nat × Nat)

namespace Ranges

def contains : Ranges → Nat → Bool
  | [], _ => false
  | (first, last) :: rest, n => if n < first then false else n ≤ last || contains rest n

theorem contains_nil (n : Nat) : contains [] n = false := rfl

theorem exists_range_of_contains {ranges : Ranges} {n : Nat} (h : ranges.contains n = true) :
    ∃ range ∈ ranges, range.1 ≤ n ∧ n ≤ range.2 := by
  induction ranges with
  | nil => simp [contains_nil] at h
  | cons range rest ih =>
      simp only [contains] at h
      split at h
      · simp at h
      · next hn =>
        rcases Bool.or_eq_true_iff.1 h with h | h
        · exact ⟨range, by simp, Nat.le_of_not_lt hn, of_decide_eq_true h⟩
        · obtain ⟨r, hr, hb⟩ := ih h
          exact ⟨r, by simp [hr], hb⟩

end Ranges
end Text
end QueryFilter
