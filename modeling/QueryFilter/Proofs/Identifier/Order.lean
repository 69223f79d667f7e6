import QueryFilter.Proofs.Identifier.Spelling

/-!
The order of identifiers. It is the lexicographic order of their bytes, and also that of the texts
they are written as: digits are ordered as the numbers they stand for, and the digit of the high
half of a byte comes first. So identifiers are sorted by sorting the texts they are read from, once
these are in lower case.
-/

namespace QueryFilter
namespace Identifier

open Text

section Bytes

theorem compareBytes_eq_compare (first second : List UInt8) :
    compareBytes first second = compare first second := by
  induction first generalizing second with
  | nil => cases second <;> rfl
  | cons a first ih =>
      cases second with
      | nil => rfl
      | cons b second => rw [compareBytes, ih, List.compare_cons_cons]

theorem compare_eq_compare_bytes (a b : Identifier) : compare a b = compare a.bytes b.bytes :=
  compareBytes_eq_compare a.bytes b.bytes

theorem bytes_inj {a b : Identifier} : a.bytes = b.bytes ↔ a = b := by
  cases a
  cases b
  simp

instance : Std.TransOrd Identifier where
  eq_swap := by
    intro a b
    rw [compare_eq_compare_bytes, compare_eq_compare_bytes b]
    exact Std.OrientedOrd.eq_swap
  isLE_trans := by
    intro a b c hab hbc
    rw [compare_eq_compare_bytes] at hab hbc ⊢
    exact Std.TransOrd.isLE_trans hab hbc

instance : Std.LawfulEqOrd Identifier where
  compare_self := by
    intro a
    rw [compare_eq_compare_bytes, Std.compare_self]
  eq_of_compare := by
    intro a b h
    rw [compare_eq_compare_bytes] at h
    exact bytes_inj.mp (Std.LawfulEqOrd.eq_of_compare h)

end Bytes

section Texts

theorem compare_hexDigit : ∀ m < 16, ∀ n < 16, compare (hexDigit m) (hexDigit n) = compare m n := by
  decide

theorem compare_halves (m n : Nat) :
    compare m n = (compare (m / 16) (n / 16)).then (compare (m % 16) (n % 16)) := by
  rcases Nat.lt_trichotomy (m / 16) (n / 16) with hlt | heq | hgt
  · have hmn : m < n := by omega
    rw [Nat.compare_eq_lt.mpr hlt, Nat.compare_eq_lt.mpr hmn]
    rfl
  · rw [Nat.compare_eq_eq.mpr heq, Ordering.eq_then]
    rcases Nat.lt_trichotomy (m % 16) (n % 16) with hlt | hsame | hgt
    · have hmn : m < n := by omega
      rw [Nat.compare_eq_lt.mpr hlt, Nat.compare_eq_lt.mpr hmn]
    · have hmn : m = n := by omega
      rw [Nat.compare_eq_eq.mpr hsame, Nat.compare_eq_eq.mpr hmn]
    · have hmn : n < m := by omega
      rw [Nat.compare_eq_gt.mpr hgt, Nat.compare_eq_gt.mpr hmn]
  · have hmn : n < m := by omega
    rw [Nat.compare_eq_gt.mpr hgt, Nat.compare_eq_gt.mpr hmn]
    rfl

/-- Bytes are ordered as the two digits they are written with. -/
theorem compare_byte (a b : UInt8) :
    compare a b = (compare (hexDigit (a.toNat / 16)) (hexDigit (b.toNat / 16))).then
      (compare (hexDigit (a.toNat % 16)) (hexDigit (b.toNat % 16))) := by
  have htoNat : compare a b = compare a.toNat b.toNat := by
    simp only [compare, compareOfLessAndEq, UInt8.lt_iff_toNat_lt, UInt8.toNat_inj]
  have hhigh (byte : UInt8) : byte.toNat / 16 < 16 := Nat.div_lt_of_lt_mul byte.toNat_lt
  have hlow (byte : UInt8) : byte.toNat % 16 < 16 := Nat.mod_lt _ (by decide)
  rw [htoNat, compare_halves, compare_hexDigit _ (hhigh a) _ (hhigh b),
    compare_hexDigit _ (hlow a) _ (hlow b)]

theorem compare_hexBytes (first second : List UInt8) :
    compare (first.flatMap hexByte) (second.flatMap hexByte) = compare first second := by
  induction first generalizing second with
  | nil => cases second <;> rfl
  | cons a first ih =>
      cases second with
      | nil => rfl
      | cons b second =>
          simp only [List.flatMap_cons, hexByte, List.cons_append, List.nil_append,
            List.compare_cons_cons, ih, compare_byte, Ordering.then_assoc]

theorem compareOfLessAndEq_chars (first second : List Char) :
    compareOfLessAndEq first second = compare first second := by
  induction first generalizing second with
  | nil => cases second <;> rfl
  | cons a first ih =>
      cases second with
      | nil => rfl
      | cons b second =>
          rw [List.compare_cons_cons, ← ih]
          change _ = (compareOfLessAndEq a b).then _
          simp only [compareOfLessAndEq, List.cons_lt_cons_iff, List.cons.injEq]
          by_cases hlt : a < b
          · simp [hlt]
          · by_cases heq : a = b <;> simp [hlt, heq]

theorem compare_eq_compare_toList (s t : String) : compare s t = compare s.toList t.toList := by
  rw [← compareOfLessAndEq_chars]
  change compareOfLessAndEq s t = _
  simp only [compareOfLessAndEq, String.lt_iff, String.toList_inj]

theorem compare_toHex (a b : Identifier) : compare a.toHex b.toHex = compare a b := by
  rw [compare_eq_compare_toList, toHex, toHex, String.toList_ofList, String.toList_ofList,
    compare_hexBytes, compare_eq_compare_bytes]

/-- The texts that identifiers are read from are, in lower case, what the identifiers are written
as, and are read alike in lower case. -/
theorem toLower_of_parse {texts : List String} {ids : List Identifier}
    (h : texts.map parse = ids.map .ok) :
    texts.map String.toLower = ids.map toHex ∧
      ∀ text ∈ texts, parse text = parse text.toLower := by
  induction texts generalizing ids with
  | nil =>
      cases ids with
      | nil => exact ⟨rfl, nofun⟩
      | cons id ids => cases h
  | cons text texts ih =>
      cases ids with
      | nil => cases h
      | cons id ids =>
          rw [List.map_cons, List.map_cons, List.cons.injEq] at h
          obtain ⟨hhead, htail⟩ := h
          obtain ⟨hwritten, hread⟩ := ih htail
          have hlower : id.toHex = text.toLower := toHex_of_ofText (parse_eq_ok_iff.mp hhead)
          refine ⟨?_, List.forall_mem_cons.mpr ⟨?_, hread⟩⟩
          · rw [List.map_cons, List.map_cons, hwritten, hlower]
          · rw [hhead, ← hlower, parse_eq_ok_iff.mpr (ofText_toHex id)]

theorem map_toHex_mergeSort (ids : List Identifier) :
    (ids.mergeSort fun a b => (compare a b).isLE).map toHex =
      (ids.map toHex).mergeSort fun s t => (compare s t).isLE := by
  apply List.map_mergeSort
  intro a _ b _
  rw [compare_toHex]

theorem map_parse_mergeSort {texts : List String} {ids : List Identifier}
    (h : texts.map parse = ids.map .ok) :
    (texts.mergeSort fun s t => (compare s.toLower t.toLower).isLE).map parse =
      (ids.mergeSort fun a b => (compare a b).isLE).map .ok := by
  obtain ⟨hlower, hread⟩ := toLower_of_parse h
  have hsorted :
      (texts.mergeSort fun s t => (compare s.toLower t.toLower).isLE).map String.toLower =
        (texts.map String.toLower).mergeSort fun s t => (compare s t).isLE :=
    List.map_mergeSort fun _ _ _ _ => rfl
  calc (texts.mergeSort fun s t => (compare s.toLower t.toLower).isLE).map parse
      = ((texts.mergeSort fun s t => (compare s.toLower t.toLower).isLE).map String.toLower).map
          parse := by
        rw [List.map_map]
        exact List.map_congr_left fun text hmem => hread text (List.mem_mergeSort.mp hmem)
    _ = ((ids.mergeSort fun a b => (compare a b).isLE).map toHex).map parse := by
        rw [hsorted, hlower, map_toHex_mergeSort]
    _ = (ids.mergeSort fun a b => (compare a b).isLE).map .ok := by
        rw [List.map_map]
        exact List.map_congr_left fun id _ => parse_eq_ok_iff.mpr (ofText_toHex id)

end Texts

/-- Identifiers are ordered by their bytes, and so by the texts they are written as. The order is
total, and only equal identifiers have the same place in it. Sorting identifiers is sorting what
they are written as, or the texts they are read from in lower case. -/
theorem ordered_as_written :
    (∀ a b : Identifier, compare a b = compare a.bytes b.bytes ∧
      compare a b = compare a.toHex b.toHex) ∧
      (∀ a b : Identifier, (compare a b).swap = compare b a ∧ (compare a b = .eq ↔ a = b)) ∧
      (∀ a b c : Identifier, (compare a b).isLE → (compare b c).isLE → (compare a c).isLE) ∧
      (∀ (s t : String) (a b : Identifier), parse s = .ok a → parse t = .ok b →
        compare a b = compare s.toLower t.toLower) ∧
      (∀ ids : List Identifier,
        (ids.mergeSort fun a b => (compare a b).isLE).map toHex =
          (ids.map toHex).mergeSort fun s t => (compare s t).isLE) ∧
      ∀ (texts : List String) (ids : List Identifier), texts.map parse = ids.map .ok →
        (texts.mergeSort fun s t => (compare s.toLower t.toLower).isLE).map parse =
          (ids.mergeSort fun a b => (compare a b).isLE).map .ok := by
  refine ⟨?_, ?_, ?_, ?_, map_toHex_mergeSort, fun texts ids => map_parse_mergeSort⟩
  · intro a b
    exact ⟨compare_eq_compare_bytes a b, (compare_toHex a b).symm⟩
  · intro a b
    exact ⟨Std.OrientedOrd.eq_swap.symm, Std.LawfulEqOrd.compare_eq_iff_eq⟩
  · intro a b c hab hbc
    exact Std.TransOrd.isLE_trans hab hbc
  · intro s t a b hs ht
    rw [← toHex_of_ofText (parse_eq_ok_iff.mp hs), ← toHex_of_ofText (parse_eq_ok_iff.mp ht),
      compare_toHex]

/-- The capital comes before the small letter among characters, but not among digits. -/
theorem ordered_as_written_capital :
    let a : Identifier := ⟨0x0A :: List.replicate 11 0, by decide⟩
    let b : Identifier := ⟨0x0B :: List.replicate 11 0, by decide⟩
    let small := "0a0000000000000000000000"
    let capital := "0B0000000000000000000000"
    (parse small = .ok a ∧ parse capital = .ok b ∧ compare capital small = .lt) ∧
      compare small.toLower capital.toLower = .lt ∧
      ([capital, small].mergeSort fun s t => (compare s.toLower t.toLower).isLE).map parse =
        [.ok a, .ok b] := by
  intro a b small capital
  have hsmall : parse small = .ok a := by decide
  have hcapital : parse capital = .ok b := by decide
  obtain ⟨_, _, _, hlower, _, hsorted⟩ := ordered_as_written
  refine ⟨⟨hsmall, hcapital, by decide⟩, ?_, ?_⟩
  · rw [← hlower small capital a b hsmall hcapital]
    decide
  · have hgt : compare b a = .gt := by decide
    rw [hsorted [capital, small] [b, a] (by decide), List.mergeSort]
    simp [hgt]

end Identifier
end QueryFilter
