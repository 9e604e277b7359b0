import InterfaceAddress.Proofs.Number.Nearest
import Mathlib

/-! # Numbers that count as equal

Where not-a-number equals itself, numbers are equal if they are the same number
or two zeros (`Binary64.sameOrNan_iff`), which makes equality an equivalence
(`Binary64.sameOrNan_equivalence`). A zero of either sign adds nothing to the
word of a sum (`Binary64.toBits32_add_of_zero`).
-/

namespace InterfaceAddress.Binary64

variable {number other : Binary64} {negative otherNegative : Bool}
  {magnitude otherMagnitude : Magnitude}

theorem natAbs_signedUnits (negative : Bool) (magnitude : Magnitude) :
    (signedUnits negative magnitude).natAbs = magnitude.units := by
  cases negative <;> simp [signedUnits]

theorem toInt?_eq_zero_of_units (noUnits : magnitude.units = 0) :
    (finite negative magnitude).toInt? = some 0 := by
  refine toInt?_eq_some_iff.mpr ⟨negative, magnitude, rfl, ?_⟩
  rw [Int.zero_mul, ← Int.natAbs_eq_zero, natAbs_signedUnits, noUnits]

/-- A zero has no units, whatever its sign. -/
theorem toInt?_eq_zero_iff : number.toInt? = some 0 ↔
    ∃ negative magnitude, number = finite negative magnitude ∧ magnitude.units = 0 := by
  constructor
  · intro isZero
    obtain ⟨negative, magnitude, rfl, exact⟩ := toInt?_eq_some_iff.mp isZero
    refine ⟨negative, magnitude, rfl, ?_⟩
    rw [units_of_signedUnits exact, Int.natAbs_zero, Nat.zero_mul]
  · rintro ⟨negative, magnitude, rfl, noUnits⟩
    exact toInt?_eq_zero_of_units noUnits

/-- Finite numbers of the same value are the same, unless they are zeros. -/
theorem eq_or_units_eq_zero
    (same : signedUnits negative magnitude = signedUnits otherNegative otherMagnitude) :
    finite negative magnitude = finite otherNegative otherMagnitude ∨ magnitude.units = 0 := by
  have sameUnits := congrArg Int.natAbs same
  rw [natAbs_signedUnits, natAbs_signedUnits] at sameUnits
  obtain rfl := Magnitude.units_injective sameUnits
  by_cases sameSign : negative = otherNegative
  · exact .inl (by rw [sameSign])
  · right
    cases negative <;> cases otherNegative <;> simp [signedUnits] at same sameSign <;> omega

/-! ### An equivalence -/

/-- Numbers count as equal if they are the same number or both zero. -/
theorem sameOrNan_iff : number.sameOrNan other = true ↔
    number = other ∨ number.toInt? = some 0 ∧ other.toInt? = some 0 := by
  constructor
  · intro equal
    rw [sameOrNan, same, Bool.or_eq_true, Bool.and_eq_true, Bool.and_eq_true, decide_eq_true_eq,
      decide_eq_true_eq] at equal
    rcases equal with ⟨below, above⟩ | ⟨rfl, rfl⟩
    · rcases number with - | ⟨- | -⟩ | ⟨negative, magnitude⟩
      · cases below
      · exact .inl (infinity_le_iff.mp below).symm
      · exact .inl (le_neg_infinity_iff.mp above).symm
      · rcases other with - | ⟨- | -⟩ | ⟨otherNegative, otherMagnitude⟩
        · cases below
        · cases above
        · cases below
        · rw [le, decide_eq_true_eq] at below above
          have sameValue := Int.le_antisymm below above
          rcases eq_or_units_eq_zero sameValue with equal | noUnits
          · exact .inl equal
          · have otherNoUnits : otherMagnitude.units = 0 := by
              rw [← natAbs_signedUnits otherNegative, ← sameValue, natAbs_signedUnits, noUnits]
            exact .inr ⟨toInt?_eq_zero_of_units noUnits, toInt?_eq_zero_of_units otherNoUnits⟩
    · exact .inl rfl
  · rintro (rfl | ⟨isZero, otherIsZero⟩)
    · exact sameOrNan_self number
    · exact sameOrNan_of_same ((same_iff_of_toInt? isZero otherIsZero).mpr rfl)

theorem sameOrNan_equivalence :
    Equivalence fun number other : Binary64 => number.sameOrNan other = true where
  refl := sameOrNan_self
  symm := by
    intro number other equal
    rcases sameOrNan_iff.mp equal with rfl | zeros
    · exact equal
    · exact sameOrNan_iff.mpr (.inr zeros.symm)
  trans := by
    intro number other third equal alsoEqual
    rcases sameOrNan_iff.mp equal with rfl | zeros
    · exact alsoEqual
    · rcases sameOrNan_iff.mp alsoEqual with rfl | otherZeros
      · exact equal
      · exact sameOrNan_iff.mpr (.inr ⟨zeros.1, otherZeros.2⟩)

/-! ### Adding a zero -/

/-- The word of a finite number does not show the sign of a zero. -/
theorem toBits32_finite_of_units (noUnits : magnitude.units = 0) :
    (finite negative magnitude).toBits32 = 0 := by
  have whole : magnitude.whole = 0 := by rw [Magnitude.whole, noUnits, Nat.zero_div]
  rw [toBits32, truncate?_finite, whole]
  cases negative <;> rfl

theorem toBits32_add_of_zero (number : Binary64) (isZero : other.toInt? = some 0) :
    (number + other).toBits32 = number.toBits32 := by
  obtain ⟨otherNegative, otherMagnitude, rfl, otherNoUnits⟩ := toInt?_eq_zero_iff.mp isZero
  cases number with
  | nan => rfl
  | infinity negative => rfl
  | finite negative magnitude =>
    have nothing : signedUnits otherNegative otherMagnitude = 0 := by
      rw [← Int.natAbs_eq_zero, natAbs_signedUnits, otherNoUnits]
    change (add _ _).toBits32 = _
    simp only [add, nothing, Int.add_zero, natAbs_signedUnits, ofUnits_units]
    by_cases noUnits : magnitude.units = 0
    · rw [toBits32_finite_of_units noUnits, toBits32_finite_of_units noUnits]
    · have sign : decide (signedUnits negative magnitude < 0) = negative := by
        cases negative <;> simp [signedUnits, Nat.pos_of_ne_zero noUnits]
      have nonzero : signedUnits negative magnitude ≠ 0 := by
        rwa [ne_eq, ← Int.natAbs_eq_zero, natAbs_signedUnits]
      rw [if_neg nonzero, sign]

end InterfaceAddress.Binary64
