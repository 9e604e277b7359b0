import InterfaceAddress.Proofs.Number.Order
import Mathlib

/-! # Words of numbers

Every number stands for an unsigned word of 32 bits: its integer part modulo
`2 ^ 32`, or zero where it is not finite (`Binary64.unsigned`). Bits of numbers
are bits of these words (`getLsbD_toBits32`), and a natural number below
`2 ^ 32` is its own word (`unsigned_ofNat`). A sum of integers is exact up to
`2 ^ 53` (`toInt?_add`), so that its word is theirs modulo `2 ^ 32`.
-/

namespace InterfaceAddress.Binary64

variable {number other : Binary64} {value otherValue : Int}

/-- The unsigned word of 32 bits that a number stands for. -/
def unsigned (number : Binary64) : Nat := (number.truncate?.getD 0 % 2 ^ 32).toNat

theorem toNat_toBits32 (number : Binary64) : number.toBits32.toNat = number.unsigned :=
  BitVec.toNat_ofInt _

theorem getLsbD_toBits32 (number : Binary64) (position : Nat) :
    number.toBits32.getLsbD position = number.unsigned.testBit position := by
  rw [← toNat_toBits32]
  rfl

theorem unsigned_ofNat {value : Nat} (small : value < 2 ^ 32) :
    (ofNat value).unsigned = value := by
  have isInteger := toInt?_ofNat (Nat.lt_trans small (by decide : 2 ^ 32 < 2 ^ 53))
  have reduced : (value : Int) % 2 ^ 32 = value := by omega
  rw [unsigned, truncate?_of_toInt? isInteger, Option.getD_some, reduced, Int.toNat_natCast]

/-- The word of an integer is the integer modulo `2 ^ 32`. -/
theorem toBits32_of_toInt? (isInteger : number.toInt? = some value) :
    number.toBits32 = BitVec.ofInt 32 value := by
  rw [toBits32, truncate?_of_toInt? isInteger, Option.getD_some]

/-! ### Sums of integers -/

/-- A number of units and its sign are the signed units; a zero may have either sign. -/
theorem signedUnits_of_natAbs {magnitude : Magnitude} {units : Int} {negative : Bool}
    (size : magnitude.units = units.natAbs)
    (sign : units ≠ 0 → negative = decide (units < 0)) :
    signedUnits negative magnitude = units := by
  rw [signedUnits, size]
  rcases eq_or_ne units 0 with rfl | nonzero
  · simp
  · rw [sign nonzero]
    by_cases below : units < 0
    · rw [decide_eq_true below, if_pos rfl]
      omega
    · rw [decide_eq_false below, if_neg Bool.false_ne_true]
      omega

/-- Nothing is rounded where integers have a sum below `2 ^ 53`. -/
theorem toInt?_add (isInteger : number.toInt? = some value)
    (otherIsInteger : other.toInt? = some otherValue)
    (small : (value + otherValue).natAbs < 2 ^ 53) :
    (number + other).toInt? = some (value + otherValue) := by
  obtain ⟨negative, magnitude, rfl, exact⟩ := toInt?_eq_some_iff.mp isInteger
  obtain ⟨otherNegative, otherMagnitude, rfl, otherExact⟩ := toInt?_eq_some_iff.mp otherIsInteger
  obtain ⟨total, totalUnits⟩ := Magnitude.exists_units_eq_mul small
  have sum : signedUnits negative magnitude + signedUnits otherNegative otherMagnitude =
      (value + otherValue) * Magnitude.unitsPerOne := by
    rw [exact, otherExact, Int.add_mul]
  have size : total.units = ((value + otherValue) * (Magnitude.unitsPerOne : Int)).natAbs := by
    rw [Int.natAbs_mul, Int.natAbs_natCast, totalUnits]
  change (add _ _).toInt? = _
  rw [add, sum, ← size, ofUnits_units]
  refine toInt?_eq_some_iff.mpr ⟨_, total, rfl, signedUnits_of_natAbs size fun nonzero => ?_⟩
  rw [if_neg nonzero]

end InterfaceAddress.Binary64
