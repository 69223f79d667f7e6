import QueryFilter.Identifier

/-!
Identifiers are read back from their digits. The digits are ASCII, so each takes one byte of the
text, and two of them give the byte they were written from.
-/

namespace QueryFilter
namespace Identifier

open Text

/-- A digit as the byte it takes in a text. -/
def digitByte (n : Nat) : UInt8 := UInt8.ofNat (hexDigit n).toNat

theorem utf8EncodeChar_hexDigit : ∀ n < 16, String.utf8EncodeChar (hexDigit n) = [digitByte n] := by
  decide

theorem hexValue?_digitByte : ∀ n < 16, hexValue? (digitByte n).toNat = some n := by decide

theorem utf8_hexBytes (bytes : List UInt8) :
    utf8 (String.ofList (bytes.flatMap hexByte)) =
      bytes.flatMap fun byte => [digitByte (byte.toNat / 16), digitByte (byte.toNat % 16)] := by
  rw [utf8, String.toList_ofList, List.flatMap_assoc]
  congr 1
  funext byte
  have hhigh : byte.toNat / 16 < 16 := by
    have := byte.toNat_lt
    omega
  have hlow : byte.toNat % 16 < 16 := Nat.mod_lt _ (by decide)
  simp only [hexByte, List.flatMap_cons, List.flatMap_nil, utf8EncodeChar_hexDigit _ hhigh,
    utf8EncodeChar_hexDigit _ hlow]
  rfl

theorem readPairs_digitBytes (place : Nat) (bytes : List UInt8) :
    readPairs place
      (bytes.flatMap fun byte => [digitByte (byte.toNat / 16), digitByte (byte.toNat % 16)]) =
        .ok bytes := by
  induction bytes generalizing place with
  | nil => rfl
  | cons byte rest ih =>
      have hhigh : byte.toNat / 16 < 16 := by
        have := byte.toNat_lt
        omega
      have hlow : byte.toNat % 16 < 16 := Nat.mod_lt _ (by decide)
      have hbyte : (16 * (byte.toNat / 16) + byte.toNat % 16).toUInt8 = byte := by
        rw [Nat.div_add_mod]
        exact UInt8.ofNat_toNat
      simp only [List.flatMap_cons, List.cons_append, List.nil_append, readPairs,
        hexValue?_digitByte _ hhigh, hexValue?_digitByte _ hlow, ih, Except.map, hbyte]

theorem ofText_toHex (id : Identifier) : ofText id.toHex = .ok id := by
  obtain ⟨bytes, hlength⟩ := id
  have hdigits := utf8_hexBytes bytes
  have hcount : (utf8 (toHex ⟨bytes, hlength⟩)).length = 24 := by
    rw [toHex, hdigits, List.length_flatMap]
    simp [List.map_const', hlength]
  have hread : readPairs 0 (utf8 (toHex ⟨bytes, hlength⟩)) = .ok bytes := by
    rw [toHex, hdigits]
    exact readPairs_digitBytes 0 bytes
  simp only [ofText, hcount, hread, bind, Except.bind, dif_pos hlength]
  rfl

end Identifier
end QueryFilter
