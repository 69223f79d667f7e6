import QueryFilter.Text.Hex
import QueryFilter.Text.Quoted

/-!
Document identifiers: twelve bytes, written as 24 hexadecimal digits. Text is classified by
its bytes in UTF-8, so a fault gives the place of a byte.
-/

namespace QueryFilter

structure Identifier where
  bytes : List UInt8
  length_eq : bytes.length = 12
deriving DecidableEq

namespace Identifier

inductive Fault where
  | oddLength
  | wrongLength
  | badDigit (byte : UInt8) (place : Nat)
deriving DecidableEq

/-- The text of a fault. A byte is shown as the character with its number. -/
def Fault.message : Fault → String
  | oddLength => "Odd number of digits"
  | wrongLength => "Invalid string length"
  | badDigit byte place =>
      "Invalid character " ++ Text.quotedChar (Char.ofNat byte.toNat) ++ " at position " ++
        toString place

/-- The bytes of a text in UTF-8. -/
def utf8 (text : String) : List UInt8 := text.toList.flatMap String.utf8EncodeChar

/-- Reads pairs of digits as bytes, the place of the first digit being given. -/
def readPairs : Nat → List UInt8 → Except Fault (List UInt8)
  | _, [] => .ok []
  | _, [_] => .error .oddLength
  | place, high :: low :: rest =>
      match Text.hexValue? high.toNat, Text.hexValue? low.toNat with
      | none, _ => .error (.badDigit high place)
      | some _, none => .error (.badDigit low (place + 1))
      | some h, some l =>
          (readPairs (place + 2) rest).map ((16 * h + l).toUInt8 :: ·)

def ofText (text : String) : Except Fault Identifier :=
  let digits := utf8 text
  if digits.length % 2 = 1 then .error .oddLength
  else if digits.length ≠ 24 then .error .wrongLength
  else do
    let bytes ← readPairs 0 digits
    if h : bytes.length = 12 then .ok ⟨bytes, h⟩ else .error .wrongLength

/-- The digits of an identifier, in lower case. -/
def toHex (id : Identifier) : String := String.ofList (id.bytes.flatMap Text.hexByte)

def zero : Identifier := ⟨List.replicate 12 0, by decide⟩

def isZero (id : Identifier) : Bool := id = zero

def compareBytes : List UInt8 → List UInt8 → Ordering
  | [], [] => .eq
  | [], _ :: _ => .lt
  | _ :: _, [] => .gt
  | a :: as, b :: bs => (compare a b).then (compareBytes as bs)

instance : Ord Identifier := ⟨fun a b => compareBytes a.bytes b.bytes⟩

end Identifier
end QueryFilter
