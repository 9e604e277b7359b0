import InterfaceAddress.Wire.BigEndian
import Mathlib

/-! # Reading big-endian fields undoes writing them

Main statements: a number that fits is read back in front of any rest
(`readNat?_writeNat_append`, `readInt?_writeInt_append`), and octets are what is
written for the number they denote (`writeNat_natOfOctets`,
`writeInt_intOfOctets`).
-/

namespace InterfaceAddress.Wire

theorem capacity_eq (size : Nat) : capacity size = 256 ^ size := by
  rw [capacity, Nat.shiftLeft_eq, Nat.one_mul, Nat.pow_mul]

theorem capacity_pos (size : Nat) : 0 < capacity size := by
  rw [capacity_eq]
  exact Nat.pow_pos (by decide)

theorem capacity_succ (size : Nat) : capacity (size + 1) = 256 * capacity size := by
  rw [capacity_eq, capacity_eq, Nat.pow_succ, Nat.mul_comm]

theorem writeNat_succ (size value : Nat) :
    writeNat (size + 1) value = UInt8.ofNat (value / capacity size) :: writeNat size value := by
  rw [writeNat, Nat.shiftRight_eq_div_pow, capacity, Nat.shiftLeft_eq, Nat.one_mul]

@[simp] theorem length_writeNat (size value : Nat) : (writeNat size value).length = size := by
  induction size with
  | zero => rfl
  | succ size ih => simp [writeNat_succ, ih]

private theorem foldl_octets (octets : List UInt8) (start : Nat) :
    octets.foldl (fun value octet => 256 * value + octet.toNat) start =
      start * capacity octets.length + natOfOctets octets := by
  induction octets generalizing start with
  | nil => simp [natOfOctets, capacity_eq]
  | cons octet rest ih =>
    simp only [List.foldl_cons, List.length_cons, natOfOctets, capacity_succ]
    rw [ih, ih (256 * 0 + octet.toNat)]
    ring

theorem natOfOctets_cons (octet : UInt8) (rest : List UInt8) :
    natOfOctets (octet :: rest) = octet.toNat * capacity rest.length + natOfOctets rest := by
  simpa [natOfOctets] using foldl_octets rest octet.toNat

/-- Octets in front of others count as many times as those can denote numbers. -/
theorem natOfOctets_append (front rest : List UInt8) :
    natOfOctets (front ++ rest) = natOfOctets front * capacity rest.length + natOfOctets rest := by
  rw [natOfOctets, List.foldl_append]
  exact foldl_octets rest _

theorem natOfOctets_lt (octets : List UInt8) : natOfOctets octets < capacity octets.length := by
  induction octets with
  | nil => simp [natOfOctets, capacity_eq]
  | cons octet rest ih =>
    have scaled := Nat.mul_le_mul_right (capacity rest.length) (Nat.succ_le_of_lt octet.toNat_lt)
    rw [natOfOctets_cons, List.length_cons, capacity_succ]
    rw [Nat.succ_mul] at scaled
    omega

/-- Octets written for a number denote it up to the digits that were dropped. -/
theorem natOfOctets_writeNat (size value : Nat) :
    natOfOctets (writeNat size value) = value % capacity size := by
  induction size with
  | zero => simp [writeNat, natOfOctets, capacity_eq, Nat.mod_one]
  | succ size ih =>
    rw [writeNat_succ, natOfOctets_cons, ih, length_writeNat, UInt8.toNat_ofNat', capacity_succ,
      Nat.mul_comm 256, Nat.mod_mul, Nat.add_comm, Nat.mul_comm]

private theorem writeNat_add_natOfOctets (octets : List UInt8) (high : Nat) :
    writeNat octets.length (high * capacity octets.length + natOfOctets octets) = octets := by
  induction octets generalizing high with
  | nil => rfl
  | cons octet rest ih =>
    have split : high * capacity (rest.length + 1) + natOfOctets (octet :: rest) =
        (256 * high + octet.toNat) * capacity rest.length + natOfOctets rest := by
      rw [natOfOctets_cons, capacity_succ]
      ring
    have quotient : ((256 * high + octet.toNat) * capacity rest.length + natOfOctets rest) /
        capacity rest.length = 256 * high + octet.toNat := by
      rw [Nat.mul_comm, Nat.mul_add_div (capacity_pos _), Nat.div_eq_of_lt (natOfOctets_lt rest),
        Nat.add_zero]
    have digit : UInt8.ofNat (256 * high + octet.toNat) = octet := by
      apply UInt8.toNat.inj
      have bound := octet.toNat_lt
      rw [UInt8.toNat_ofNat']
      omega
    rw [List.length_cons, split, writeNat_succ, ih, quotient, digit]

/-- Octets are what is written for the number they denote. -/
theorem writeNat_natOfOctets (octets : List UInt8) :
    writeNat octets.length (natOfOctets octets) = octets := by
  simpa using writeNat_add_natOfOctets octets 0

@[simp] theorem length_writeInt (size : Nat) (value : Int) :
    (writeInt size value).length = size := length_writeNat size _

/-- A signed number that fits is what its octets denote. -/
theorem intOfOctets_writeInt {size : Nat} {value : Int} (low : -capacity size ≤ 2 * value)
    (high : 2 * value < capacity size) : intOfOctets (writeInt size value) = value := by
  have positive := capacity_pos size
  have nonnegative := Int.emod_nonneg value (b := capacity size) (by omega)
  have below := Int.emod_lt_of_pos value (b := capacity size) (by omega)
  have denoted : (natOfOctets (writeInt size value) : Int) = value % capacity size := by
    rw [writeInt, natOfOctets_writeNat, Nat.mod_eq_of_lt (by omega), Int.toNat_of_nonneg nonnegative]
  simp only [intOfOctets, length_writeInt]
  by_cases negative : value < 0
  · have residue : value % capacity size = value + capacity size := by
      rw [← Int.add_emod_right, Int.emod_eq_of_lt (by omega) (by omega)]
    rw [if_neg (by omega)]
    omega
  · have residue : value % capacity size = value := Int.emod_eq_of_lt (by omega) (by omega)
    rw [if_pos (by omega)]
    omega

/-- Octets of one count that denote one number are the same. -/
theorem natOfOctets_inj {octets other : List UInt8} (sameLength : octets.length = other.length) :
    natOfOctets octets = natOfOctets other ↔ octets = other := by
  constructor
  · intro same
    rw [← writeNat_natOfOctets octets, ← writeNat_natOfOctets other, same, sameLength]
  · rintro rfl
    rfl

theorem natOfOctets_eq_zero_iff {octets : List UInt8} :
    natOfOctets octets = 0 ↔ ∀ octet ∈ octets, octet = 0 := by
  induction octets with
  | nil => exact iff_of_true rfl nofun
  | cons octet rest ih =>
    rw [natOfOctets_cons, Nat.add_eq_zero_iff, ih, List.forall_mem_cons, Nat.mul_eq_zero,
      or_iff_left (capacity_pos _).ne', ← UInt8.toNat_inj]
    rfl

/-- Octets are what is written for the signed number they denote. -/
theorem writeInt_intOfOctets (octets : List UInt8) :
    writeInt octets.length (intOfOctets octets) = octets := by
  have small := natOfOctets_lt octets
  have denoted : (intOfOctets octets % capacity octets.length).toNat = natOfOctets octets := by
    simp only [intOfOctets]
    split
    · rw [Int.emod_eq_of_lt (by omega) (by omega), Int.toNat_natCast]
    · rw [Int.sub_emod_right, Int.emod_eq_of_lt (by omega) (by omega), Int.toNat_natCast]
  rw [writeInt, denoted, writeNat_natOfOctets]

theorem take?_append (octets rest : List UInt8) :
    take? octets.length (octets ++ rest) = some (octets, rest) := by
  simp [take?]

/-- A number that fits is read back in front of any rest. -/
theorem readNat?_writeNat_append {size value : Nat} (fits : value < capacity size)
    (rest : List UInt8) : readNat? size (writeNat size value ++ rest) = some (value, rest) := by
  have taken := take?_append (writeNat size value) rest
  rw [length_writeNat] at taken
  simp [readNat?, taken, natOfOctets_writeNat, Nat.mod_eq_of_lt fits]

/-- A signed number that fits is read back in front of any rest. -/
theorem readInt?_writeInt_append {size : Nat} {value : Int} (low : -capacity size ≤ 2 * value)
    (high : 2 * value < capacity size) (rest : List UInt8) :
    readInt? size (writeInt size value ++ rest) = some (value, rest) := by
  have taken := take?_append (writeInt size value) rest
  rw [length_writeInt] at taken
  simp [readInt?, taken, intOfOctets_writeInt low high]

end InterfaceAddress.Wire
