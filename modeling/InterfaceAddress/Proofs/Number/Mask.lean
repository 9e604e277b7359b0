import Mathlib

/-! # Numbers with ones at the top

The number of a mask has a given count of ones at the top of its width and zeros
below (`Netmask.testBit_value`). Under a mask a number keeps its leading bits
(`Netmask.and_value`), so that a test of an octet under a mask is a comparison
of its leading bits (`Netmask.and_eq_iff`).
-/

namespace InterfaceAddress.Netmask

/-- The number with this many ones at the top of a width. -/
def value (width length : Nat) : Nat := 2 ^ width - 2 ^ (width - length)

theorem value_eq {width length : Nat} (short : length ≤ width) :
    value width length = 2 ^ (width - length) * (2 ^ length - 1) := by
  rw [value, Nat.mul_sub, Nat.mul_one, ← Nat.pow_add, Nat.sub_add_cancel short]

theorem value_lt (width length : Nat) : value width length < 2 ^ width :=
  Nat.sub_lt (Nat.two_pow_pos _) (Nat.two_pow_pos _)

theorem testBit_value {width length : Nat} (short : length ≤ width) (position : Nat) :
    (value width length).testBit position =
      (decide (width - length ≤ position) && decide (position < width)) := by
  rw [value_eq short, Nat.testBit_two_pow_mul, Nat.testBit_two_pow_sub_one]
  by_cases high : width - length ≤ position
  · have same : position - (width - length) < length ↔ position < width := by omega
    simp only [high, same]
  · simp only [high, decide_false, Bool.false_and]

/-- What a mask leaves of a number are its leading bits. -/
theorem and_value {width length number : Nat} (short : length ≤ width)
    (small : number < 2 ^ width) :
    number &&& value width length =
      number / 2 ^ (width - length) * 2 ^ (width - length) := by
  apply Nat.eq_of_testBit_eq
  intro position
  rw [Nat.testBit_and, testBit_value short, Nat.testBit_mul_two_pow, Nat.testBit_div_two_pow]
  by_cases high : width - length ≤ position
  · rw [Nat.sub_add_cancel high]
    by_cases low : position < width
    · simp only [high, low, decide_true, Bool.and_true, Bool.true_and]
    · have past := Nat.testBit_lt_two_pow
        (Nat.lt_of_lt_of_le small (Nat.pow_le_pow_right (by decide) (Nat.le_of_not_lt low)))
      simp only [past, Bool.false_and, Bool.and_false]
  · simp only [high, decide_false, Bool.false_and, Bool.and_false]

/-- An octet under a mask is decided by its leading bits. -/
theorem and_eq_iff {octet mask network : UInt8} {length : Nat} (short : length ≤ 8)
    (isMask : mask.toNat = value 8 length) :
    octet &&& mask = network ↔
      octet.toNat / 2 ^ (8 - length) * 2 ^ (8 - length) = network.toNat := by
  rw [← UInt8.toNat_inj, UInt8.toNat_and, isMask, and_value short octet.toNat_lt]

end InterfaceAddress.Netmask
