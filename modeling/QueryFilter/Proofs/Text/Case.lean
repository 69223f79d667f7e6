/-!
Letters in lower case. Only the capitals of the Latin alphabet have another character there, so a
property of characters that they share with their small letters does not depend on the case.
-/

namespace QueryFilter
namespace Text

theorem apply_toLower (p : Char → Bool)
    (h : ∀ n < 91, 65 ≤ n → p (Char.ofNat n).toLower = p (Char.ofNat n)) (c : Char) :
    p c.toLower = p c := by
  by_cases hcapital : 65 ≤ c.toNat ∧ c.toNat ≤ 90
  · have hletter := h c.toNat (Nat.lt_succ_of_le hcapital.2) hcapital.1
    rwa [Char.ofNat_toNat] at hletter
  · have hsame : c.toLower = c := by
      refine dif_neg ?_
      simpa [UInt32.le_iff_toNat_le] using hcapital
    rw [hsame]

theorem toList_toLower (text : String) : text.toLower.toList = text.toList.map Char.toLower :=
  String.toList_map

theorem length_toLower (text : String) : text.toLower.length = text.length := by
  rw [← String.length_toList, toList_toLower, List.length_map, String.length_toList]

end Text
end QueryFilter
