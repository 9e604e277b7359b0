import InterfaceAddress.Number.Integer
import Mathlib

/-! # Order of whole numbers

A number has an integer value exactly if it is finite and its units are that
many ones (`toInt?_eq_some_iff`). Numbers with integer values are compared by
these values, whatever the sign of a zero (`le_iff_of_toInt?`,
`same_iff_of_toInt?`). Among all numbers the order is transitive (`le_trans`),
and not-a-number is outside it.
-/

namespace InterfaceAddress.Binary64

variable {number other : Binary64} {value otherValue : Int}

theorem truncate?_finite (negative : Bool) (magnitude : Magnitude) :
    (finite negative magnitude).truncate? =
      some (if negative then -(magnitude.whole : Int) else magnitude.whole) := by
  cases negative <;> rfl

theorem toInt?_finite (negative : Bool) (magnitude : Magnitude) :
    (finite negative magnitude).toInt? =
      if magnitude.IsWhole then (finite negative magnitude).truncate? else none := rfl

theorem units_of_signedUnits {negative : Bool} {magnitude : Magnitude}
    (exact : signedUnits negative magnitude = value * Magnitude.unitsPerOne) :
    magnitude.units = value.natAbs * Magnitude.unitsPerOne := by
  have absolute := congrArg Int.natAbs exact
  rw [Int.natAbs_mul, Int.natAbs_natCast] at absolute
  rw [← absolute]
  cases negative <;> simp [signedUnits]

/-- A number is an integer if it is finite and that many ones. -/
theorem toInt?_eq_some_iff : number.toInt? = some value ↔
    ∃ negative magnitude, number = finite negative magnitude ∧
      signedUnits negative magnitude = value * Magnitude.unitsPerOne := by
  constructor
  · intro isInteger
    cases number with
    | nan => cases isInteger
    | infinity negative => cases isInteger
    | finite negative magnitude =>
      refine ⟨negative, magnitude, rfl, ?_⟩
      rw [toInt?_finite] at isInteger
      split at isInteger
      case isFalse => cases isInteger
      case isTrue isWhole =>
        have exact : (magnitude.units : Int) = magnitude.whole * Magnitude.unitsPerOne := by
          exact_mod_cast (Nat.div_mul_cancel (Nat.dvd_of_mod_eq_zero isWhole)).symm
        rw [truncate?_finite, Option.some.injEq] at isInteger
        rw [← isInteger]
        cases negative <;> simp [signedUnits, exact]
  · rintro ⟨negative, magnitude, rfl, exact⟩
    have positive := Magnitude.unitsPerOne_pos
    have units := units_of_signedUnits exact
    rw [toInt?_finite, if_pos (Magnitude.isWhole_of_units units), truncate?_finite,
      Magnitude.whole_of_units units]
    have sign : if negative then value ≤ 0 else 0 ≤ value := by
      cases negative
      · have nonnegative : 0 ≤ value * Magnitude.unitsPerOne := by simp [← exact, signedUnits]
        exact nonneg_of_mul_nonneg_left nonnegative (by exact_mod_cast positive)
      · have nonpositive : value * Magnitude.unitsPerOne ≤ 0 := by simp [← exact, signedUnits]
        exact nonpos_of_mul_nonpos_left nonpositive (by exact_mod_cast positive)
    cases negative
    · simpa using sign
    · simp only [↓reduceIte] at sign
      simp only [↓reduceIte, Option.some.injEq]
      omega

/-- An integer loses nothing when the digits after the point are dropped. -/
theorem truncate?_of_toInt? (isInteger : number.toInt? = some value) :
    number.truncate? = some value := by
  cases number with
  | nan => cases isInteger
  | infinity negative => cases isInteger
  | finite negative magnitude =>
    rw [toInt?_finite] at isInteger
    split at isInteger
    case isTrue => exact isInteger
    case isFalse => cases isInteger

/-- A natural number below `2 ^ 53` is read back from the number nearest to it. -/
theorem toInt?_ofNat {value : Nat} (small : value < 2 ^ 53) :
    (ofNat value).toInt? = some (value : Int) := toInt?_ofInt (by simpa using small)

theorem toInt?_neg (isInteger : number.toInt? = some value) : (-number).toInt? = some (-value) := by
  obtain ⟨negative, magnitude, rfl, exact⟩ := toInt?_eq_some_iff.mp isInteger
  refine toInt?_eq_some_iff.mpr ⟨!negative, magnitude, rfl, ?_⟩
  rw [Int.neg_mul, ← exact]
  cases negative <;> simp [signedUnits]

theorem toSafeInt?_eq_some_iff : number.toSafeInt? = some value ↔
    number.toInt? = some value ∧ value.natAbs ≤ maxSafeInteger.natAbs := by
  simp [toSafeInt?, Option.filter_eq_some_iff]

section

variable (isInteger : number.toInt? = some value) (otherIsInteger : other.toInt? = some otherValue)
include isInteger otherIsInteger

theorem le_iff_of_toInt? : number.le other = true ↔ value ≤ otherValue := by
  obtain ⟨negative, magnitude, rfl, exact⟩ := toInt?_eq_some_iff.mp isInteger
  obtain ⟨otherNegative, otherMagnitude, rfl, otherExact⟩ := toInt?_eq_some_iff.mp otherIsInteger
  have positive : (0 : Int) < Magnitude.unitsPerOne := by exact_mod_cast Magnitude.unitsPerOne_pos
  rw [le, decide_eq_true_eq, exact, otherExact, mul_le_mul_iff_left₀ positive]

theorem lt_iff_of_toInt? : number.lt other = true ↔ value < otherValue := by
  have below := le_iff_of_toInt? isInteger otherIsInteger
  have above := le_iff_of_toInt? otherIsInteger isInteger
  rw [lt, Bool.and_eq_true, Bool.not_eq_true', ← Bool.not_eq_true, below, above]
  omega

/-- Integers are equal as numbers if they are equal as integers. -/
theorem same_iff_of_toInt? : number.same other = true ↔ value = otherValue := by
  rw [same, Bool.and_eq_true, le_iff_of_toInt? isInteger otherIsInteger,
    le_iff_of_toInt? otherIsInteger isInteger]
  omega

end

/-- An integer is below infinity. -/
theorem lt_infinity_of_toInt? (isInteger : number.toInt? = some value) :
    number.lt (infinity false) = true := by
  obtain ⟨negative, magnitude, rfl, -⟩ := toInt?_eq_some_iff.mp isInteger
  rfl

/-- Nothing is above infinity. -/
theorem infinity_lt (number : Binary64) : (infinity false).lt number = false := by
  rcases number with - | ⟨- | -⟩ | - <;> rfl

/-- Nothing is ordered against not-a-number. -/
theorem le_nan (number : Binary64) : number.le nan = false := by
  rcases number with - | ⟨- | -⟩ | - <;> rfl

/-- Infinity is at most itself alone. -/
theorem infinity_le_iff : (infinity false).le number = true ↔ number = infinity false := by
  rcases number with - | ⟨- | -⟩ | - <;> simp [le]

/-- Only the least number is at most the least number. -/
theorem le_neg_infinity_iff : number.le (infinity true) = true ↔ number = infinity true := by
  rcases number with - | ⟨- | -⟩ | - <;> simp [le]

theorem le_trans {third : Binary64} (below : number.le other = true)
    (above : other.le third = true) : number.le third = true := by
  cases other with
  | nan =>
    rw [le_nan] at below
    cases below
  | infinity negative =>
    cases negative with
    | false =>
      obtain rfl := infinity_le_iff.mp above
      exact below
    | true =>
      obtain rfl := le_neg_infinity_iff.mp below
      exact above
  | finite negative magnitude =>
    rcases number with - | ⟨- | -⟩ | ⟨sign, size⟩
    · cases below
    · cases below
    · -- only not-a-number is not above the least number
      rcases third with - | ⟨- | -⟩ | ⟨thirdSign, thirdSize⟩
      · cases above
      · rfl
      · rfl
      · rfl
    · rcases third with - | ⟨- | -⟩ | ⟨thirdSign, thirdSize⟩
      · cases above
      · rfl
      · cases above
      · rw [le, decide_eq_true_eq] at below above ⊢
        exact Int.le_trans below above

theorem sameOrNan_self (number : Binary64) : number.sameOrNan number = true := by
  rcases number with - | ⟨- | -⟩ | ⟨negative, magnitude⟩
  · rfl
  · rfl
  · rfl
  · simp [sameOrNan, same, le]

theorem sameOrNan_of_same (equal : number.same other = true) : number.sameOrNan other = true := by
  rw [sameOrNan, equal, Bool.true_or]

end InterfaceAddress.Binary64
