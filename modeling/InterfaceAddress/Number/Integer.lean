import InterfaceAddress.Number.Binary64
import Mathlib

/-! # Whole numbers

A magnitude is the nearest one to its own value (`nearest?_units`), so every
integer below `2 ^ 53` is held exactly (`exists_ofInt_eq_finite`) and is read
back from the number nearest to it (`toInt?_ofInt`).
-/

namespace InterfaceAddress

namespace Magnitude

theorem units_eq (magnitude : Magnitude) :
    magnitude.units = magnitude.significand * 2 ^ magnitude.shift := Nat.shiftLeft_eq _ _

theorem onePlace_eq : onePlace = 1074 := by rw [onePlace]

theorem unitsPerOne_eq : unitsPerOne = 2 ^ onePlace := by
  rw [unitsPerOne, Nat.shiftLeft_eq, Nat.one_mul]

theorem unitsPerOne_pos : 0 < unitsPerOne := by
  rw [unitsPerOne_eq]
  exact Nat.two_pow_pos _

theorem ofParts?_self (magnitude : Magnitude) :
    ofParts? magnitude.significand magnitude.shift = some magnitude := by
  simp only [ofParts?, magnitude.canonical, ↓reduceDIte]

theorem roundHalfEven_mul (value : Nat) {scale : Nat} (positive : 0 < scale) :
    roundHalfEven (value * scale) scale = value := by
  simp [roundHalfEven, positive]

theorem log2_units {magnitude : Magnitude} (normal : 0x10000000000000 ≤ magnitude.significand) :
    magnitude.units.log2 = 52 + magnitude.shift := by
  have small := magnitude.canonical.1
  rw [units_eq, Nat.log2_eq_iff (Nat.ne_of_gt (Nat.mul_pos (by omega) (Nat.two_pow_pos _)))]
  constructor
  · rw [Nat.pow_add]
    exact Nat.mul_le_mul_right _ normal
  · rw [Nat.add_right_comm, Nat.pow_add]
    exact Nat.mul_lt_mul_of_pos_right small (Nat.two_pow_pos _)

/-- A magnitude is the nearest one to its own value. -/
theorem nearest?_units (magnitude : Magnitude) : nearest? magnitude.units 1 = some magnitude := by
  obtain ⟨small, _, normal⟩ := magnitude.canonical
  have shift : (magnitude.units / 1).log2 - 52 = magnitude.shift := by
    rw [Nat.div_one]
    by_cases least : magnitude.shift = 0
    · by_cases zero : magnitude.significand = 0
      · simp [units_eq, zero, least]
      · have bound : magnitude.significand.log2 < 53 := (Nat.log2_lt zero).mpr small
        rw [units_eq, least, Nat.pow_zero, Nat.mul_one]
        omega
    · have log := log2_units (normal.resolve_left least)
      omega
  have rounded : roundHalfEven magnitude.units (1 <<< magnitude.shift) = magnitude.significand := by
    rw [Nat.shiftLeft_eq, Nat.one_mul, units_eq, roundHalfEven_mul _ (Nat.two_pow_pos _)]
  unfold nearest?
  simp only [shift, rounded]
  rw [if_neg (Nat.ne_of_lt small), ofParts?_self]

theorem isWhole_of_units {magnitude : Magnitude} {value : Nat}
    (exact : magnitude.units = value * unitsPerOne) : magnitude.IsWhole := by
  rw [IsWhole, exact, Nat.mul_mod_left]

theorem whole_of_units {magnitude : Magnitude} {value : Nat}
    (exact : magnitude.units = value * unitsPerOne) : magnitude.whole = value := by
  rw [whole, exact, Nat.mul_div_cancel _ unitsPerOne_pos]

/-- Every natural number below `2 ^ 53` is the value of a magnitude. -/
theorem exists_units_eq_mul {value : Nat} (small : value < 2 ^ 53) :
    ∃ magnitude : Magnitude, magnitude.units = value * unitsPerOne := by
  by_cases zero : value = 0
  · exact ⟨.zero, by rw [units_eq, zero, Nat.zero_mul, Magnitude.zero, Nat.zero_mul]⟩
  · have low := Nat.log2_self_le zero
    have high := Nat.lt_log2_self (n := value)
    have bound : value.log2 < 53 := (Nat.log2_lt zero).mpr small
    have place : 52 - value.log2 + (1022 + value.log2) = onePlace := by
      rw [onePlace_eq]
      omega
    refine ⟨⟨value * 2 ^ (52 - value.log2), 1022 + value.log2, ?_, by omega, .inr ?_⟩, ?_⟩
    · have scaled := Nat.mul_lt_mul_of_pos_right high (Nat.two_pow_pos (52 - value.log2))
      rwa [← Nat.pow_add, show value.log2 + 1 + (52 - value.log2) = 53 by omega] at scaled
    · have scaled := Nat.mul_le_mul_right (2 ^ (52 - value.log2)) low
      rwa [← Nat.pow_add, show value.log2 + (52 - value.log2) = 52 by omega] at scaled
    · rw [units_eq, Nat.mul_assoc, ← Nat.pow_add, place, unitsPerOne_eq]

end Magnitude

namespace Binary64

theorem ofUnits_units (negative : Bool) (magnitude : Magnitude) :
    ofUnits negative magnitude.units 1 = finite negative magnitude := by
  unfold ofUnits
  rw [Magnitude.nearest?_units]

/-- Integers below `2 ^ 53` are held exactly. -/
theorem exists_ofInt_eq_finite {value : Int} (small : value.natAbs < 2 ^ 53) :
    ∃ magnitude : Magnitude, magnitude.units = value.natAbs * Magnitude.unitsPerOne ∧
      ofInt value = finite (value < 0) magnitude := by
  obtain ⟨magnitude, exact⟩ := Magnitude.exists_units_eq_mul small
  refine ⟨magnitude, exact, ?_⟩
  rw [ofInt, ← exact, ofUnits_units]

/-- Integers below `2 ^ 53` are read back. -/
theorem toInt?_ofInt {value : Int} (small : value.natAbs < 2 ^ 53) :
    (ofInt value).toInt? = some value := by
  obtain ⟨magnitude, exact, equal⟩ := exists_ofInt_eq_finite small
  have isWhole := Magnitude.isWhole_of_units exact
  have whole := Magnitude.whole_of_units exact
  rw [equal]
  by_cases negative : value < 0
  · have signed : -(value.natAbs : Int) = value := by omega
    simp only [negative, decide_true, toInt?, isWhole, ↓reduceIte, truncate?, whole, signed]
  · have signed : (value.natAbs : Int) = value := by omega
    simp only [negative, decide_false, toInt?, isWhole, ↓reduceIte, truncate?, whole, signed]

end Binary64

end InterfaceAddress
