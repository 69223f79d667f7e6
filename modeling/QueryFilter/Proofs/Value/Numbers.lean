import Mathlib.Algebra.Group.Int.Defs
import Mathlib.Algebra.Group.Nat.Defs
import QueryFilter.Value.Json

/-!
Numbers up to what extended JSON tells apart: it keeps neither whether a whole number was made
signed or unsigned, nor which not-a-number a float is. The names of the floats that are not finite
are read back.
-/

namespace QueryFilter

namespace Binary64

def notANumber : Binary64 := ofFields false 2047 0x8000000000000

def infinity (negative : Bool) : Binary64 := ofFields negative 2047 0

def ofSpecialName? (name : String) : Option Binary64 :=
  if name = "NaN" then some notANumber
  else if name = "Infinity" then some (infinity false)
  else if name = "-Infinity" then some (infinity true)
  else none

theorem isNaN_notANumber : notANumber.isNaN = true := by
  decide

theorem isFinite_of_isNaN {x : Binary64} (h : x.isNaN = true) : x.isFinite = false := by
  rw [isNaN, Bool.and_eq_true, Bool.not_eq_true'] at h
  exact h.1

/-- What is not finite and is a number is an infinity. -/
theorem eq_infinity {x : Binary64} (hinfinite : x.isFinite = false) (hnumber : x.isNaN = false) :
    x = infinity x.isNegative := by
  have hexponent : 2047 ≤ x.exponentField := by
    simpa [isFinite] using hinfinite
  have hfraction : x.fractionField = 0 := by
    simpa [isNaN, hinfinite] using hnumber
  have hlt := x.bits.toNat_lt
  obtain ⟨bits⟩ := x
  simp only [exponentField, fractionField, fractionCount] at hexponent hfraction hlt
  simp only [infinity, ofFields, isNegative, signBit, fractionCount, Binary64.mk.injEq]
  rw [← UInt64.toNat_inj, Nat.toUInt64, UInt64.toNat_ofNat']
  by_cases hsign : 0x8000000000000000 ≤ bits.toNat
  · simp only [hsign, decide_true, if_true]
    omega
  · simp only [hsign, decide_false, Bool.false_eq_true, if_false]
    omega

theorem ofSpecialName?_specialName {x : Binary64} (h : x.isFinite = false) :
    ofSpecialName? x.specialName = some (if x.isNaN then notANumber else x) := by
  cases hnan : x.isNaN with
  | true => simp [specialName, hnan, ofSpecialName?]
  | false =>
      have hinfinity := eq_infinity h hnan
      cases hsign : x.isNegative with
      | true =>
          rw [hsign] at hinfinity
          simp [specialName, hnan, hsign, ofSpecialName?, ← hinfinity]
      | false =>
          rw [hsign] at hinfinity
          simp [specialName, hnan, hsign, ofSpecialName?, ← hinfinity]

end Binary64

namespace Number

def ofInteger (n : Int) : Number :=
  if 0 ≤ n then .unsigned n.toNat.toUInt64 else .signed (Int64.ofInt n)

/-- A number up to what JSON tells apart: a whole number is signed only if it is negative, and
there is one not-a-number. -/
def canonical : Number → Number
  | signed n => ofInteger n.toInt
  | unsigned n => .unsigned n
  | float x => .float (if x.isNaN then Binary64.notANumber else x)

def whole? : Number → Option Int
  | signed n => some n.toInt
  | unsigned n => some n.toNat
  | float _ => none

def isNaN : Number → Bool
  | float x => x.isNaN
  | _ => false

/-- The same number, or whole numbers of equal value, or two floats that are no numbers. -/
def Alike (m n : Number) : Prop :=
  m = n ∨ (m.whole?.isSome ∧ m.whole? = n.whole?) ∨ (m.isNaN ∧ n.isNaN)

theorem ofInteger_toNat (n : UInt64) : ofInteger n.toNat = .unsigned n := by
  rw [ofInteger, if_pos (Int.natCast_nonneg _), Int.toNat_natCast]
  exact congrArg unsigned UInt64.ofNat_toNat

theorem canonical_of_whole {m : Number} {k : Int} (h : m.whole? = some k) :
    m.canonical = ofInteger k := by
  cases m with
  | signed n =>
      cases h
      rfl
  | unsigned n =>
      cases h
      exact (ofInteger_toNat n).symm
  | float x => cases h

theorem whole?_ofInteger {n : Int} (hle : -2 ^ 63 ≤ n) (hlt : n < 2 ^ 64) :
    (ofInteger n).whole? = some n := by
  rw [ofInteger]
  split
  · next h =>
    have hsize : n.toNat < 2 ^ 64 := by omega
    rw [whole?, Nat.toUInt64, UInt64.toNat_ofNat', Nat.mod_eq_of_lt hsize, Int.toNat_of_nonneg h]
  · next h =>
    have hsize : n < 2 ^ 63 := by omega
    simp only [whole?, Int64.toInt_ofInt_of_le hle hsize]

theorem whole?_canonical (m : Number) : m.canonical.whole? = m.whole? := by
  cases m with
  | signed n =>
      have hlt := n.toInt_lt
      exact whole?_ofInteger n.le_toInt (by omega)
  | unsigned n => rfl
  | float x => rfl

theorem toJson_of_whole {m : Number} {k : Int} (h : m.whole? = some k) : m.toJson = .integer k := by
  cases m with
  | signed n =>
      cases h
      rfl
  | unsigned n =>
      cases h
      rfl
  | float x => cases h

theorem toJson_of_isNaN {x : Binary64} (h : x.isNaN = true) :
    (float x).toJson = .object [(extendedTags.double, .string "NaN")] := by
  rw [toJson, Binary64.isFinite_of_isNaN h, if_neg Bool.false_ne_true, Binary64.specialName, h,
    if_pos rfl]

theorem toJson_canonical (m : Number) : m.canonical.toJson = m.toJson := by
  cases hwhole : m.whole? with
  | some k => rw [toJson_of_whole hwhole, toJson_of_whole ((whole?_canonical m).trans hwhole)]
  | none =>
      cases m with
      | signed n => cases hwhole
      | unsigned n => cases hwhole
      | float x =>
          cases hnan : x.isNaN with
          | false => rw [canonical, hnan, if_neg Bool.false_ne_true]
          | true =>
              rw [canonical, hnan, if_pos rfl, toJson_of_isNaN hnan,
                toJson_of_isNaN Binary64.isNaN_notANumber]

theorem isNaN_canonical (m : Number) : m.canonical.isNaN = m.isNaN := by
  cases m with
  | signed n =>
      rw [canonical, ofInteger]
      split <;> rfl
  | unsigned n => rfl
  | float x =>
      rw [canonical, isNaN, isNaN]
      cases hnan : x.isNaN with
      | true => exact Binary64.isNaN_notANumber
      | false => exact hnan

/-- A number that is neither whole nor a not-a-number is kept as it is. -/
theorem canonical_eq_self {m : Number} (hwhole : m.whole? = none) (hnan : m.isNaN = false) :
    m.canonical = m := by
  cases m with
  | signed n => cases hwhole
  | unsigned n => cases hwhole
  | float x =>
      have hx : x.isNaN = false := hnan
      rw [canonical, hx]
      rfl

theorem canonical_eq_iff (m n : Number) : m.canonical = n.canonical ↔ m.Alike n := by
  constructor
  · intro h
    have hwhole : m.whole? = n.whole? := by
      rw [← whole?_canonical m, h, whole?_canonical n]
    have hnan : m.isNaN = n.isNaN := by
      rw [← isNaN_canonical m, h, isNaN_canonical n]
    cases hm : m.whole? with
    | some k => exact .inr (.inl ⟨Option.isSome_of_eq_some hm, hwhole⟩)
    | none =>
        cases hx : m.isNaN with
        | true => exact .inr (.inr ⟨hx, hnan.symm.trans hx⟩)
        | false =>
            rw [canonical_eq_self hm hx,
              canonical_eq_self (hwhole.symm.trans hm) (hnan.symm.trans hx)] at h
            exact .inl h
  · rintro (rfl | ⟨hsome, hwhole⟩ | ⟨hm, hn⟩)
    · rfl
    · obtain ⟨k, hk⟩ := Option.isSome_iff_exists.mp hsome
      rw [canonical_of_whole hk, canonical_of_whole (hwhole ▸ hk)]
    · cases m <;> cases n <;> simp_all [isNaN, canonical]

end Number
end QueryFilter
