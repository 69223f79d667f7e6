import QueryFilter.Json.Token

/-!
What the spelling of a number stands for. Without a point and an exponent it is whole if it
fits 64 bits, signed or not. Any other number is a float: the digits that fit 64 bits,
scaled by one power of ten. The scaling rounds once, so digits in excess are dropped and not
rounded. A number too large for a float stands for nothing.
-/

namespace QueryFilter
namespace Json

/-- The words of 64 bits. -/
def wordCount : Nat := 0x10000000000000000

/-- Extends a number by digits as long as it fits 64 bits, and counts the digits taken. -/
def extendWord : Nat → List Char → Nat × Nat
  | word, [] => (word, 0)
  | word, c :: rest =>
      let next := 10 * word + Text.digitValue c
      if next < wordCount then
        let (last, taken) := extendWord next rest
        (last, taken + 1)
      else (word, 0)

/-- A number below two to the 64 times a power of ten. -/
def scaleWord? (word : Nat) (power : Int) : Option Float :=
  let x := word.toUInt64.toFloat
  let ten (n : Nat) : Float := Float.ofScientific 1 false n
  if 308 < power then
    if word = 0 then some x else none
  else if 0 ≤ power then
    let product := x * ten power.toNat
    if product.isInf then none else some product
  else if -308 ≤ power then some (x / ten (-power).toNat)
  else if -616 ≤ power then some (x / ten 308 / ten (-power - 308).toNat)
  else some 0.0

namespace Numeral

/-- The whole number, if the digits before the point fit 64 bits. -/
def word? (numeral : Numeral) : Option Nat :=
  let n := Text.digitsValue numeral.whole
  if n < wordCount then some n else none

def float? (numeral : Numeral) : Option Binary64 := do
  let (whole, taken) := extendWord 0 numeral.whole
  let (word, places) := extendWord whole (numeral.fraction.getD [])
  let shift : Int :=
    match numeral.exponent with
    | none => 0
    | some (true, digits) => -(Text.digitsValue digits : Int)
    | some (false, digits) => Text.digitsValue digits
  let magnitude ← scaleWord? word (numeral.whole.length - taken - places + shift)
  pure ⟨(if numeral.negative then -magnitude else magnitude).toBits⟩

/-- The value of a number. Minus zero and what lies below the signed range are floats. -/
def toJson? (numeral : Numeral) : Option Json :=
  if numeral.fraction.isSome ∨ numeral.exponent.isSome then numeral.float?.map .float
  else
    match numeral.word? with
    | none => numeral.float?.map .float
    | some n =>
        if !numeral.negative then some (.integer n)
        else if 0 < n ∧ n ≤ 0x8000000000000000 then some (.integer (-n))
        else numeral.float?.map .float

end Numeral
end Json
end QueryFilter
