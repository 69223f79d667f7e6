import QueryFilter.Decimal.Shortest

/-!
How a binary64 number is written in a document: its shortest decimal, positional while the
point stays near the digits and with an exponent otherwise.
-/

namespace QueryFilter
namespace Decimal

/-- Where positional notation ends and how an exponent is written. The point may stand at most
`zerosBefore` zeros in front of the digits and at most `placesBehind` places behind the first
of them. -/
structure Style where
  zerosBefore : Nat
  placesBehind : Nat
  exponentMark : Char
  plusSign : Bool
  wholeTail : List Char

/-- Documents write up to sixteen places positionally, at most four zeros after the point, a
whole number with a fraction of zero, and an exponent always with its sign. -/
def documentStyle : Style := ⟨4, 16, 'e', true, ['.', '0']⟩

/-- Digits with the point after the given place, which may lie outside them. -/
def Style.layOut (style : Style) (digits : List Char) (point : Int) : List Char :=
  if 0 < point ∧ point ≤ style.placesBehind then
    let places := point.toNat
    if digits.length ≤ places then
      digits ++ List.replicate (places - digits.length) '0' ++ style.wholeTail
    else digits.take places ++ '.' :: digits.drop places
  else if point ≤ 0 ∧ -(style.zerosBefore : Int) ≤ point then
    '0' :: '.' :: (List.replicate (-point).toNat '0' ++ digits)
  else
    let exponent := point - 1
    let mark := if exponent < 0 then ['-'] else if style.plusSign then ['+'] else []
    digits.take 1 ++ (if digits.length ≤ 1 then [] else '.' :: digits.drop 1) ++
      style.exponentMark :: mark ++ Nat.toDigits 10 exponent.natAbs

/-- The digits of a scaled number without the zeros at its end, and the place of the point. -/
def Scaled.laidOut (s : Scaled) (style : Style) : List Char :=
  let digits := Nat.toDigits 10 s.digits
  let trimmed := (digits.reverse.dropWhile (· == '0')).reverse
  style.layOut trimmed (digits.length + s.power)

def text (x : Binary64) : String :=
  let sign := if x.isNegative then ['-'] else []
  let body :=
    if x.isZero then '0' :: documentStyle.wholeTail
    else (shortest x.significand x.scale).laidOut documentStyle
  String.ofList (sign ++ body)

end Decimal
end QueryFilter
