import Mathlib.Data.Bool.AllAny
import Mathlib.Data.List.Basic
import Mathlib.Data.List.Induction
import QueryFilter.DateFormat
import QueryFilter.Proofs.Identifier.Hex
import QueryFilter.Proofs.Text.Case

/-!
The texts that spell an identifier. They are the texts of 24 hexadecimal digits, in either case,
and the identifier read from one is written as the text in lower case. So texts stand for one
identifier exactly when they differ in the case of letters alone. Any other text has one fault,
told from its bytes in UTF-8.
-/

namespace QueryFilter
namespace Identifier

open Text

/-- The characters that a digit is written as, in either case. -/
def digitChars : List Char := "0123456789abcdefABCDEF".toList

/-- Whether a byte is a digit. -/
def isDigitByte (byte : UInt8) : Bool := decide (Char.ofNat byte.toNat ∈ digitChars)

structure IsSpelling (text : String) : Prop where
  length_eq : text.length = 24
  digits : ∀ c ∈ text.toList, c ∈ digitChars

/-- What is wrong with the bytes of a text that spells no identifier. An odd number of them counts
before a wrong number, and a wrong number before the first byte that is no digit. -/
inductive Misspelt (bytes : List UInt8) : Fault → Prop
  | oddLength : bytes.length % 2 = 1 → Misspelt bytes .oddLength
  | wrongLength : bytes.length % 2 = 0 → bytes.length ≠ 24 → Misspelt bytes .wrongLength
  | badDigit {byte : UInt8} {place : Nat} :
      bytes.length = 24 → bytes[place]? = some byte → isDigitByte byte = false →
      (∀ earlier ∈ bytes.take place, isDigitByte earlier = true) →
      Misspelt bytes (.badDigit byte place)

section Bytes

variable {byte : UInt8} {bytes : List UInt8} {fault : Fault}

theorem isSome_hexValue? : ∀ n < 256, (hexValue? n).isSome = isDigitByte (UInt8.ofNat n) := by
  decide +kernel

theorem hexDigit_of_hexValue? :
    ∀ n < 256, ∀ value ∈ hexValue? n, hexDigit value = (Char.ofNat n).toLower := by
  decide +kernel

theorem exists_hexValue? (h : isDigitByte byte = true) :
    ∃ value < 16, hexValue? byte.toNat = some value ∧
      hexDigit value = (Char.ofNat byte.toNat).toLower := by
  have hsome := isSome_hexValue? byte.toNat byte.toNat_lt
  rw [UInt8.ofNat_toNat, h] at hsome
  obtain ⟨value, hvalue⟩ := Option.isSome_iff_exists.mp hsome
  exact ⟨value, hexValue?_lt hvalue, hvalue, hexDigit_of_hexValue? _ byte.toNat_lt value hvalue⟩

theorem hexValue?_eq_none (h : isDigitByte byte = false) : hexValue? byte.toNat = none := by
  have hsome := isSome_hexValue? byte.toNat byte.toNat_lt
  rw [UInt8.ofNat_toNat, h] at hsome
  exact Option.isNone_iff_eq_none.mp (Option.isSome_eq_false_iff.mp hsome)

/-- The byte of two digits is written with these digits, in lower case. -/
theorem hexByte_of_digits {high low : Nat} (hhigh : high < 16) (hlow : low < 16) :
    hexByte (16 * high + low).toUInt8 = [hexDigit high, hexDigit low] := by
  have hvalue : (16 * high + low).toUInt8.toNat = 16 * high + low := by
    rw [Nat.toUInt8_eq, UInt8.toNat_ofNat']
    omega
  have hquotient : (16 * high + low) / 16 = high := by omega
  have hremainder : (16 * high + low) % 16 = low := by omega
  rw [hexByte, hvalue, hquotient, hremainder]

theorem readPairs_of_digits (place : Nat) (digits : List UInt8) (heven : digits.length % 2 = 0)
    (h : ∀ byte ∈ digits, isDigitByte byte = true) :
    ∃ bytes, readPairs place digits = .ok bytes ∧
      bytes.flatMap hexByte = digits.map fun byte => (Char.ofNat byte.toNat).toLower := by
  induction digits using List.twoStepInduction generalizing place with
  | nil => exact ⟨[], rfl, rfl⟩
  | singleton byte => cases heven
  | cons_cons high low rest ih _ =>
      rw [List.length_cons, List.length_cons, Nat.add_assoc, Nat.add_mod_right] at heven
      simp only [List.forall_mem_cons] at h
      obtain ⟨hvalue, hhigh, hreadHigh, hwrittenHigh⟩ := exists_hexValue? h.1
      obtain ⟨lvalue, hlow, hreadLow, hwrittenLow⟩ := exists_hexValue? h.2.1
      obtain ⟨bytes, hread, hwritten⟩ := ih (place + 2) heven h.2.2
      refine ⟨(16 * hvalue + lvalue).toUInt8 :: bytes, ?_, ?_⟩
      · simp only [readPairs, hreadHigh, hreadLow, hread, Except.map]
      · rw [List.flatMap_cons, hexByte_of_digits hhigh hlow, hwritten, hwrittenHigh, hwrittenLow]
        rfl

theorem readPairs_of_badDigit (place index : Nat) (digits : List UInt8)
    (heven : digits.length % 2 = 0) (hbyte : digits[index]? = some byte)
    (hbad : isDigitByte byte = false)
    (hearlier : ∀ earlier ∈ digits.take index, isDigitByte earlier = true) :
    readPairs place digits = .error (.badDigit byte (place + index)) := by
  induction digits using List.twoStepInduction generalizing place index with
  | nil => cases hbyte
  | singleton byte => cases heven
  | cons_cons high low rest ih _ =>
      rw [List.length_cons, List.length_cons, Nat.add_assoc, Nat.add_mod_right] at heven
      match index with
      | 0 =>
          cases hbyte
          simp only [readPairs, hexValue?_eq_none hbad, Nat.add_zero]
      | 1 =>
          cases hbyte
          obtain ⟨_, _, hread, _⟩ := exists_hexValue? (hearlier high List.mem_cons_self)
          simp only [readPairs, hread, hexValue?_eq_none hbad]
      | index + 2 =>
          simp only [List.take_succ_cons, List.forall_mem_cons] at hearlier
          obtain ⟨_, _, hreadHigh, _⟩ := exists_hexValue? hearlier.1
          obtain ⟨_, _, hreadLow, _⟩ := exists_hexValue? hearlier.2.1
          have hrest := ih (place + 2) index heven hbyte hearlier.2.2
          simp only [readPairs, hreadHigh, hreadLow, hrest, Except.map]
          congr 2
          omega

theorem exists_misspelt (bytes : List UInt8)
    (h : ¬ (bytes.length = 24 ∧ ∀ byte ∈ bytes, isDigitByte byte = true)) :
    ∃ fault, Misspelt bytes fault := by
  by_cases hodd : bytes.length % 2 = 1
  · exact ⟨_, .oddLength hodd⟩
  by_cases hlength : bytes.length = 24
  · have hexists : ∃ byte ∈ bytes, isDigitByte byte = false := by
      simpa [hlength] using h
    have hplace := List.findIdx_lt_length_of_exists (p := fun byte => !isDigitByte byte)
      (by simpa using hexists)
    refine ⟨_, .badDigit hlength (List.getElem?_eq_getElem hplace) ?_ ?_⟩
    · simpa using List.findIdx_getElem (w := hplace)
    · intro earlier hearlier
      obtain ⟨place, hlt, rfl⟩ := List.mem_take_iff_getElem.mp hearlier
      simpa using List.not_of_lt_findIdx (Nat.lt_of_lt_of_le hlt (Nat.min_le_left _ _))
  · exact ⟨_, .wrongLength (by omega) hlength⟩

/-- Bytes that are misspelt have no other fault, and are not 24 digits. -/
theorem ofText_of_misspelt {text : String} (h : Misspelt (utf8 text) fault) :
    ofText text = .error fault := by
  cases h with
  | oddLength hodd => simp only [ofText, hodd, if_true]
  | wrongLength heven hlength =>
      simp only [ofText, heven, Nat.zero_ne_one, if_false, ne_eq, hlength, not_false_eq_true,
        if_true]
  | badDigit hlength hbyte hbad hearlier =>
      have hread := readPairs_of_badDigit 0 _ (utf8 text) (by rw [hlength]) hbyte hbad hearlier
      rw [Nat.zero_add] at hread
      simp [ofText, hlength, hread, bind, Except.bind]

theorem exists_ofText_of_digits {text : String} (hlength : (utf8 text).length = 24)
    (h : ∀ byte ∈ utf8 text, isDigitByte byte = true) :
    ∃ id, ofText text = .ok id ∧
      id.toHex.toList = (utf8 text).map fun byte => (Char.ofNat byte.toNat).toLower := by
  obtain ⟨bytes, hread, hwritten⟩ := readPairs_of_digits 0 (utf8 text) (by rw [hlength]) h
  have hcount : bytes.length = 12 := by
    have hdigits := congrArg List.length hwritten
    simp only [List.length_flatMap, hexByte, List.length_cons, List.length_nil, List.map_const',
      List.sum_replicate_nat, List.length_map, hlength] at hdigits
    omega
  refine ⟨⟨bytes, hcount⟩, ?_, ?_⟩
  · simp [ofText, hlength, hread, bind, Except.bind, hcount]
  · rw [toHex, String.toList_ofList, hwritten]

end Bytes

section Characters

variable {c : Char} {text : String}

theorem utf8EncodeChar_of_mem : ∀ c ∈ digitChars,
    String.utf8EncodeChar c = [UInt8.ofNat c.toNat] ∧
      Char.ofNat (UInt8.ofNat c.toNat).toNat = c :=
  List.all_iff_forall_prop.mp (by decide)

theorem toNat_lt_of_isDigitByte {byte : UInt8} (h : isDigitByte byte = true) :
    byte.toNat < 128 := by
  have hdigits : ∀ n < 256, isDigitByte (UInt8.ofNat n) = true → n < 128 := by decide +kernel
  exact hdigits byte.toNat byte.toNat_lt (by rwa [UInt8.ofNat_toNat])

/-- A character beyond ASCII takes more than one byte, and none of them is ASCII. -/
theorem exists_utf8EncodeChar_ge (h : 128 ≤ c.toNat) :
    ∃ byte ∈ String.utf8EncodeChar c, 128 ≤ byte.toNat := by
  have hlast (n : Nat) : 128 ≤ (UInt8.ofNat (n % 64 + 128)).toNat := by
    rw [UInt8.toNat_ofNat']
    omega
  have hval : c.val.toNat = c.toNat := rfl
  refine ⟨UInt8.ofNat (c.toNat % 64 + 128), ?_, hlast _⟩
  simp only [String.utf8EncodeChar, hval, if_neg (Nat.not_le_of_lt h)]
  split
  · simp
  · split <;> simp

theorem mem_digitChars_of_utf8 (h : ∀ byte ∈ String.utf8EncodeChar c, isDigitByte byte = true) :
    c ∈ digitChars := by
  by_cases hascii : c.toNat < 128
  · have hbyte : String.utf8EncodeChar c = [UInt8.ofNat c.toNat] :=
      if_pos (Nat.le_of_lt_succ hascii)
    rw [hbyte, List.forall_mem_singleton, isDigitByte, decide_eq_true_iff,
      UInt8.toNat_ofNat_of_lt' (Nat.lt_trans hascii (by decide)), Char.ofNat_toNat] at h
    exact h
  · obtain ⟨byte, hmem, hge⟩ := exists_utf8EncodeChar_ge (Nat.le_of_not_lt hascii)
    exact absurd (toNat_lt_of_isDigitByte (h byte hmem)) (Nat.not_lt_of_le hge)

theorem utf8_of_digits (h : ∀ c ∈ text.toList, c ∈ digitChars) :
    utf8 text = text.toList.map fun c => UInt8.ofNat c.toNat := by
  rw [utf8, List.map_eq_flatMap]
  exact List.flatMap_congr fun c hc => (utf8EncodeChar_of_mem c (h c hc)).1

/-- A text spells an identifier exactly when its bytes are 24 digits. -/
theorem isSpelling_iff :
    IsSpelling text ↔ (utf8 text).length = 24 ∧ ∀ byte ∈ utf8 text, isDigitByte byte = true := by
  constructor
  · rintro ⟨hlength, hdigits⟩
    rw [utf8_of_digits hdigits, List.length_map, String.length_toList]
    refine ⟨hlength, ?_⟩
    intro byte hbyte
    obtain ⟨c, hc, rfl⟩ := List.mem_map.mp hbyte
    rw [isDigitByte, (utf8EncodeChar_of_mem c (hdigits c hc)).2]
    exact decide_eq_true (hdigits c hc)
  · rintro ⟨hlength, hbytes⟩
    have hdigits : ∀ c ∈ text.toList, c ∈ digitChars := by
      intro c hc
      exact mem_digitChars_of_utf8 fun byte hbyte =>
        hbytes byte (List.mem_flatMap.mpr ⟨c, hc, hbyte⟩)
    rw [utf8_of_digits hdigits, List.length_map, String.length_toList] at hlength
    exact ⟨hlength, hdigits⟩

theorem mem_digitChars_toLower : c.toLower ∈ digitChars ↔ c ∈ digitChars := by
  have hsame := apply_toLower (fun c => decide (c ∈ digitChars)) (by decide) c
  rwa [decide_eq_decide] at hsame

theorem isSpelling_toLower : IsSpelling text.toLower ↔ IsSpelling text := by
  have hdigits : (∀ c ∈ text.toLower.toList, c ∈ digitChars) ↔
      ∀ c ∈ text.toList, c ∈ digitChars := by
    simp only [toList_toLower, List.forall_mem_map, mem_digitChars_toLower]
  constructor
  · rintro ⟨hlength, hall⟩
    exact ⟨length_toLower text ▸ hlength, hdigits.mp hall⟩
  · rintro ⟨hlength, hall⟩
    exact ⟨(length_toLower text).trans hlength, hdigits.mpr hall⟩

theorem toUTF8_eq_utf8 (text : String) : text.toUTF8.data.toList = utf8 text := by
  rw [String.toUTF8, ← String.utf8Encode_toList, List.utf8Encode, List.toList_data_toByteArray]
  rfl

end Characters

section Texts

variable {text other : String} {id : Identifier}

theorem exists_ofText_of_isSpelling (h : IsSpelling text) :
    ∃ id, ofText text = .ok id ∧ id.toHex = text.toLower := by
  obtain ⟨hlength, hbytes⟩ := isSpelling_iff.mp h
  obtain ⟨id, hread, hwritten⟩ := exists_ofText_of_digits hlength hbytes
  refine ⟨id, hread, ?_⟩
  rw [← String.toList_inj, hwritten, toList_toLower, utf8_of_digits h.digits, List.map_map]
  refine List.map_congr_left fun c hc => ?_
  rw [Function.comp_apply, (utf8EncodeChar_of_mem c (h.digits c hc)).2]

theorem isSpelling_of_ofText (h : ofText text = .ok id) : IsSpelling text := by
  by_contra hnot
  obtain ⟨fault, hfault⟩ := exists_misspelt (utf8 text) (mt isSpelling_iff.mpr hnot)
  rw [ofText_of_misspelt hfault] at h
  cases h

theorem toHex_of_ofText (h : ofText text = .ok id) : id.toHex = text.toLower := by
  obtain ⟨read, hread, hwritten⟩ := exists_ofText_of_isSpelling (isSpelling_of_ofText h)
  rw [hread] at h
  cases h
  exact hwritten

theorem toHex_inj {a b : Identifier} : a.toHex = b.toHex ↔ a = b := by
  constructor
  · intro h
    have hread := ofText_toHex a
    rw [h, ofText_toHex b] at hread
    cases hread
    rfl
  · rintro rfl
    rfl

theorem ofText_eq_error_iff {fault : Fault} :
    ofText text = .error fault ↔ Misspelt (utf8 text) fault := by
  constructor
  · intro h
    have hnot : ¬ IsSpelling text := by
      intro hspelling
      obtain ⟨id, hread, _⟩ := exists_ofText_of_isSpelling hspelling
      rw [hread] at h
      cases h
    obtain ⟨found, hfound⟩ := exists_misspelt (utf8 text) (mt isSpelling_iff.mpr hnot)
    rw [ofText_of_misspelt hfound] at h
    cases h
    exact hfound
  · exact ofText_of_misspelt

theorem parse_eq_ok_iff : parse text = .ok id ↔ ofText text = .ok id := by
  rw [parse]
  cases ofText text <;> simp [Except.mapError]

theorem parse_eq_error_iff {fault : InputFault} :
    parse text = .error fault ↔
      ∃ cause, fault = .identifier text cause ∧ ofText text = .error cause := by
  rw [parse]
  cases ofText text <;> simp [Except.mapError, eq_comm]

end Texts

/-- A text is read as an identifier exactly when it is 24 digits, in either case, and the identifier
is written as the text in lower case; a written identifier is read back. So two texts are read as
one identifier exactly when they are the same in lower case. A text that is refused is given back
with the one fault of its bytes. -/
theorem text_read_iff_digits (text : String) :
    ((∃ id, parse text = .ok id) ↔ text.length = 24 ∧ ∀ c ∈ text.toList, c ∈ digitChars) ∧
      (∀ id, parse text = .ok id → id.toHex = text.toLower) ∧
      (∀ id : Identifier, parse id.toHex = .ok id) ∧
      (∀ id, parse text = .ok id →
        ∀ other : String, parse other = .ok id ↔ other.toLower = text.toLower) ∧
      ∀ fault, parse text = .error fault ↔
        ∃ cause, fault = .identifier text cause ∧ Misspelt text.toUTF8.data.toList cause := by
  simp only [parse_eq_ok_iff]
  refine ⟨?_, fun id => toHex_of_ofText, ofText_toHex, ?_, ?_⟩
  · constructor
    · rintro ⟨id, hread⟩
      obtain ⟨hlength, hdigits⟩ := isSpelling_of_ofText hread
      exact ⟨hlength, hdigits⟩
    · rintro ⟨hlength, hdigits⟩
      obtain ⟨id, hread, _⟩ := exists_ofText_of_isSpelling ⟨hlength, hdigits⟩
      exact ⟨id, hread⟩
  · intro id hread other
    constructor
    · intro hother
      rw [← toHex_of_ofText hother, toHex_of_ofText hread]
    · intro hcase
      have hspelling : IsSpelling other := by
        rw [← isSpelling_toLower, hcase, isSpelling_toLower]
        exact isSpelling_of_ofText hread
      obtain ⟨found, hfound, hwritten⟩ := exists_ofText_of_isSpelling hspelling
      rw [hcase, ← toHex_of_ofText hread, toHex_inj] at hwritten
      rwa [hwritten] at hfound
  · intro fault
    simp only [parse_eq_error_iff, toUTF8_eq_utf8, ofText_eq_error_iff]

/-- Letters in both cases; and a character of two bytes, of which the first is at fault. -/
theorem text_read_iff_digits_mixed :
    (∃ id, parse "5F1a2B3c4D5e6F7a8B9c0D1e" = .ok id ∧
      id.toHex = "5F1a2B3c4D5e6F7a8B9c0D1e".toLower ∧
      parse "5f1A2b3C4d5E6f7A8b9C0d1E" = .ok id) ∧
      parse "5fé7a8b9c0d1e5f1a2b3c4d" =
        .error (.identifier "5fé7a8b9c0d1e5f1a2b3c4d" (.badDigit 0xC3 2)) := by
  obtain ⟨hread, hwritten, _, hsame, _⟩ := text_read_iff_digits "5F1a2B3c4D5e6F7a8B9c0D1e"
  obtain ⟨_, _, _, _, hrefused⟩ := text_read_iff_digits "5fé7a8b9c0d1e5f1a2b3c4d"
  have hcase : "5f1A2b3C4d5E6f7A8b9C0d1E".toLower = "5F1a2B3c4D5e6F7a8B9c0D1e".toLower := by
    rw [← String.toList_inj, toList_toLower, toList_toLower]
    decide
  obtain ⟨id, hid⟩ := hread.mpr ⟨by decide, List.all_iff_forall_prop.mp (by decide)⟩
  refine ⟨⟨id, hid, hwritten id hid, (hsame id hid _).mpr hcase⟩, ?_⟩
  have hearlier : ∀ earlier ∈ "5fé7a8b9c0d1e5f1a2b3c4d".toUTF8.data.toList.take 2,
      isDigitByte earlier = true :=
    List.all_eq_true.mp (by decide)
  exact (hrefused _).mpr ⟨_, rfl, .badDigit (by decide) (by decide) (by decide) hearlier⟩

end Identifier
end QueryFilter
