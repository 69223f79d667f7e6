import Mathlib.Algebra.Group.Nat.Defs
import QueryFilter.Calendar.Rfc3339

/-!
Written numbers are read back. Digits of a fixed width, digits without leading zeros and the
fraction of a second each give back the number they were written from, and the scanners take
exactly the digits and leave what follows. A run of digits ends where the text goes on with
something that is no digit; where a width is fixed, anything may follow.
-/

namespace QueryFilter

namespace Text

theorem digitsValue_snoc (digits : List Char) (c : Char) :
    digitsValue (digits ++ [c]) = 10 * digitsValue digits + digitValue c := by
  simp [digitsValue, List.foldl_append]

theorem digitsValue_padded {width n : Nat} (h : n < 10 ^ width) :
    digitsValue (padded width n) = n := by
  induction width generalizing n with
  | zero =>
      simp only [Nat.pow_zero, Nat.lt_one_iff] at h
      exact h.symm
  | succ width ih =>
      have hquot : n / 10 < 10 ^ width := by
        rw [Nat.pow_succ] at h
        omega
      rw [padded, digitsValue_snoc, ih hquot, digitValue_digit _ (Nat.mod_lt n (by decide))]
      omega

theorem padded_ne_nil {width : Nat} (h : 0 < width) (n : Nat) : padded width n ≠ [] := by
  apply List.ne_nil_of_length_pos
  rwa [padded_length]

theorem digitsValue_toDigits (n : Nat) : digitsValue (Nat.toDigits 10 n) = n :=
  Nat.ofDigitChars_toDigits (by decide) (by decide)

theorem takeWhile_digits {digits : List Char} (h : ∀ c ∈ digits, c.isDigit = true) {c : Char}
    (hc : c.isDigit = false) (rest : List Char) :
    (digits ++ c :: rest).takeWhile Char.isDigit = digits := by
  rw [List.takeWhile_append_of_pos h, List.takeWhile_cons, hc]
  exact List.append_nil digits

end Text

namespace Calendar

open Text

theorem length_le_byteCount (text : List Char) : text.length ≤ byteCount text := by
  induction text with
  | nil => exact Nat.le_refl 0
  | cons c rest ih =>
      have hc := c.utf8Size_pos
      simp only [List.length_cons, byteCount]
      omega

theorem hasBytes_of_le_length {count : Nat} {text : List Char} (h : count ≤ text.length) :
    hasBytes count text = true :=
  decide_eq_true (Nat.le_trans h (length_le_byteCount text))

theorem scanFixed_padded {width n : Nat} (h : n < 10 ^ width) (rest : List Char) :
    scanFixed width (padded width n ++ rest) = .ok (n, rest) := by
  have hbytes : hasBytes width (padded width n ++ rest) = true := by
    apply hasBytes_of_le_length
    simp
  have htake : (padded width n ++ rest).take width = padded width n :=
    List.take_left' (padded_length width n)
  have hdigits : (padded width n).all Char.isDigit = true :=
    List.all_eq_true.mpr fun _ => isDigit_of_mem_padded
  have hshape : (padded width n).length = width ∧ (padded width n).all Char.isDigit = true :=
    ⟨padded_length width n, hdigits⟩
  simp only [scanFixed, hbytes, htake, List.drop_left' (padded_length width n),
    digitsValue_padded h, if_pos hshape]
  rfl

/-- Digits up to a limit: where the limit is reached, more digits may follow. -/
theorem scanDigits_padded {width n : Nat} (hwidth : 0 < width) (h : n < 10 ^ width)
    (rest : List Char) :
    scanDigits (some width) (padded width n ++ rest) = .ok (n, rest) := by
  have hlength := padded_length width n
  have hne := padded_ne_nil hwidth n
  have hrun : ((padded width n ++ rest).takeWhile Char.isDigit).take width = padded width n := by
    rw [List.takeWhile_append_of_pos fun _ => isDigit_of_mem_padded]
    exact List.take_left' hlength
  have htext : padded width n ++ rest ≠ [] := List.append_ne_nil_of_left_ne_nil hne rest
  simp only [scanDigits, hrun, if_neg htext, if_neg hne, digitsValue_padded h, hlength,
    List.drop_left' hlength]
  rfl

/-- All the digits there are. -/
theorem scanDigits_run {digits : List Char} (hne : digits ≠ [])
    (h : ∀ c ∈ digits, c.isDigit = true) {c : Char} (hc : c.isDigit = false) (rest : List Char) :
    scanDigits none (digits ++ c :: rest) = .ok (digitsValue digits, c :: rest) := by
  have htext : digits ++ c :: rest ≠ [] := List.append_ne_nil_of_left_ne_nil hne _
  simp only [scanDigits, takeWhile_digits h hc, if_neg htext, if_neg hne, List.drop_left]
  rfl

theorem scanFraction_padded {width n : Nat} (hpos : 0 < width) (hle : width ≤ 9)
    (h : n < 10 ^ width) {c : Char} (hc : c.isDigit = false) (rest : List Char) :
    scanFraction (padded width n ++ c :: rest) = .ok (n * 10 ^ (9 - width), c :: rest) := by
  have hlength := padded_length width n
  have hne := padded_ne_nil hpos n
  have hdigits : ∀ d ∈ padded width n, d.isDigit = true := fun _ => isDigit_of_mem_padded
  have hrun := takeWhile_digits hdigits hc rest
  have htake : (padded width n).take 9 = padded width n := by
    apply List.take_of_length_le
    rwa [hlength]
  have htext : padded width n ++ c :: rest ≠ [] := List.append_ne_nil_of_left_ne_nil hne _
  simp only [scanFraction, hrun, htake, if_neg htext, if_neg hne, digitsValue_padded h, hlength,
    List.drop_left' hlength]
  rfl

namespace Instant

/-- A fraction is written with the fewest of 0, 3, 6 or 9 digits that are exact, and read back. -/
theorem scanOptionalFraction_writeFraction {nanos : Nat} (h : nanos < 1000000000) {c : Char}
    (hc : c.isDigit = false) (hpoint : c ≠ '.') (rest : List Char) :
    scanOptionalFraction (writeFraction nanos ++ c :: rest) = .ok (nanos, c :: rest) := by
  rw [writeFraction]
  split
  · next hzero =>
    subst hzero
    simp only [List.nil_append, scanOptionalFraction]
    split
    · next heq => exact absurd (List.cons.inj heq).1 hpoint
    · rfl
  · split
    · have hthousand : nanos / 1000000 < 10 ^ 3 := by omega
      rw [List.cons_append, scanOptionalFraction,
        scanFraction_padded (by decide) (by decide) hthousand hc]
      congr 2
      omega
    · split
      · have hmillion : nanos / 1000 < 10 ^ 6 := by omega
        rw [List.cons_append, scanOptionalFraction,
          scanFraction_padded (by decide) (by decide) hmillion hc]
        congr 2
        omega
      · have hall : nanos < 10 ^ 9 := h
        rw [List.cons_append, scanOptionalFraction,
          scanFraction_padded (by decide) (by decide) hall hc, Nat.sub_self, Nat.pow_zero,
          Nat.mul_one]

end Instant
end Calendar
end QueryFilter
