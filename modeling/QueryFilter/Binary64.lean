/-!
Floating-point numbers as the 64 bits of the interchange format. The library stores,
compares, widens and prints such numbers and computes with none, so the bits are the value:
two numbers are the same when their bits are, and equal when the format's own comparison
says so.
-/

namespace QueryFilter

/-- A binary64 number, given by its bits: a sign, eleven bits of exponent, 52 of fraction. -/
structure Binary64 where
  bits : UInt64
deriving DecidableEq

namespace Binary64

/-- The number of fractions, two to the 52. -/
def fractionCount : Nat := 0x10000000000000

def signBit : Nat := 0x8000000000000000

/-- The eleven bits after the sign. -/
def exponentField (x : Binary64) : Nat := x.bits.toNat / fractionCount % 2048

def fractionField (x : Binary64) : Nat := x.bits.toNat % fractionCount

def isNegative (x : Binary64) : Bool := decide (signBit ≤ x.bits.toNat)

/-- Neither an infinity nor a not-a-number. -/
def isFinite (x : Binary64) : Bool := decide (x.exponentField < 2047)

/-- One of the bit patterns that stand for no number. -/
def isNaN (x : Binary64) : Bool := !x.isFinite && decide (x.fractionField ≠ 0)

def isZero (x : Binary64) : Bool := decide (x.exponentField = 0) && decide (x.fractionField = 0)

/-- Comparison for equality: a not-a-number equals nothing, and the two zeros are equal. -/
def equals (x y : Binary64) : Bool :=
  !x.isNaN && !y.isNaN && (decide (x = y) || (x.isZero && y.isZero))

instance : BEq Binary64 := ⟨equals⟩

def ofFields (negative : Bool) (exponent fraction : Nat) : Binary64 :=
  ⟨((if negative then signBit else 0) + exponent * fractionCount + fraction).toUInt64⟩

/-- The same number with the wider fields, given the bits of a binary32 number. A subnormal
becomes normal: its highest set bit turns into the hidden one. -/
def ofBinary32 (bits : UInt32) : Binary64 :=
  let word := bits.toNat
  let negative := decide (0x80000000 ≤ word)
  let exponent := word / 0x800000 % 256
  let fraction := word % 0x800000
  if exponent = 255 then ofFields negative 2047 (fraction <<< 29)
  else if exponent = 0 then
    if fraction = 0 then ofFields negative 0 0
    else
      let top := fraction.log2
      ofFields negative (top + 874) ((fraction - 1 <<< top) <<< (52 - top))
  else ofFields negative (exponent + 896) (fraction <<< 29)

/-- The whole number that the value is a multiple of a power of two of. -/
def significand (x : Binary64) : Nat :=
  if x.exponentField = 0 then x.fractionField else fractionCount + x.fractionField

/-- The power of two that belongs to the significand. -/
def scale (x : Binary64) : Int :=
  if x.exponentField = 0 then -1074 else x.exponentField - 1075

theorem equals_comm (x y : Binary64) : x.equals y = y.equals x := by
  simp only [equals, Bool.and_comm, eq_comm]

theorem equals_self (x : Binary64) : x.equals x = !x.isNaN := by
  simp [equals]

end Binary64
end QueryFilter
