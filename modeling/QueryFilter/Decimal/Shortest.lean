import QueryFilter.Binary64

/-!
The shortest decimal of a positive binary64 number. A number stands for every real that
rounds to it; the decimals with a given count of digits lie on a grid, and the shortest
decimal is on the coarsest grid that has a point among those reals, at the point nearest to
the number, the even one of two that are equally near. Everything is compared in whole
numbers.
-/

namespace QueryFilter
namespace Decimal

/-- A quotient of whole numbers that stands for a positive real. -/
structure Ratio where
  num : Nat
  den : Nat

namespace Ratio

def ofBinary (n : Nat) (power : Int) : Ratio :=
  ⟨n <<< power.toNat, 1 <<< (-power).toNat⟩

def ofDecimal (n : Nat) (power : Int) : Ratio :=
  ⟨n * Nat.pow 10 power.toNat, Nat.pow 10 (-power).toNat⟩

def lt (x y : Ratio) : Bool := x.num * y.den < y.num * x.den

def le (x y : Ratio) : Bool := x.num * y.den ≤ y.num * x.den

/-- The greatest whole multiple of a power of ten that is at most the ratio, counted in that
power. -/
def floorAt (x : Ratio) (power : Int) : Nat :=
  (x.num * Nat.pow 10 (-power).toNat) / (x.den * Nat.pow 10 power.toNat)

end Ratio

/-- The reals that round to a number: the ends, and whether they belong to it. -/
structure Interval where
  lower : Ratio
  upper : Ratio
  closed : Bool

def Interval.contains (i : Interval) (x : Ratio) : Bool :=
  if i.closed then i.lower.le x && x.le i.upper else i.lower.lt x && x.lt i.upper

/-- Half the way to either neighbour. Below a power of two the neighbours are twice as dense.
Ties round to the even significand, so the ends belong to a number that has one. -/
def Interval.around (significand : Nat) (scale : Int) : Interval :=
  let below := if significand = Binary64.fractionCount ∧ -1074 < scale then 1 else 2
  { lower := .ofBinary (4 * significand - below) (scale - 2)
    upper := .ofBinary (4 * significand + 2) (scale - 2)
    closed := significand % 2 = 0 }

/-- The least power of ten above a ratio that is at least ten to the minus 340. -/
def magnitude (x : Ratio) : Int :=
  ((Nat.toDigits 10 (x.floorAt (-340))).length : Int) - 340

/-- The nearer to the value of the two points of a grid on either side of it, among those that
round to it. -/
def nearestOnGrid? (value : Ratio) (interval : Interval) (power : Int) : Option Nat :=
  let low := value.floorAt power
  let high := low + 1
  match interval.contains (.ofDecimal low power), interval.contains (.ofDecimal high power) with
  | false, false => none
  | true, false => some low
  | false, true => some high
  | true, true =>
      let doubled : Ratio := ⟨2 * value.num, value.den⟩
      let middle : Ratio := .ofDecimal (low + high) power
      if doubled.lt middle then some low
      else if middle.lt doubled then some high
      else some (if low % 2 = 0 then low else high)

/-- Digits and the power of ten that belongs to the last of them. -/
structure Scaled where
  digits : Nat
  power : Int

/-- The shortest decimal, from the significand and the power of two of a positive number.
Seventeen digits are always enough. -/
def shortest (significand : Nat) (scale : Int) : Scaled :=
  let value := Ratio.ofBinary significand scale
  let interval := Interval.around significand scale
  let top := magnitude value
  let onGrid (count : Nat) : Option Scaled :=
    let power := top - count
    (nearestOnGrid? value interval power).map (⟨·, power⟩)
  ((List.range 16).findSome? fun i => onGrid (i + 1)).getD
    ⟨(nearestOnGrid? value interval (top - 17)).getD (value.floorAt (top - 17)), top - 17⟩

end Decimal
end QueryFilter
