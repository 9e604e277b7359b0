import InterfaceAddress.Netmask
import InterfaceAddress.Proofs.Address.Writing
import InterfaceAddress.Proofs.Wire.Descriptor
import Mathlib

/-! # Netmasks and their lengths

An address is a number of 32 or 128 bits (`Address.value`), and the bits of its
octets are those of the number, the most significant first (`Netmask.bits_eq`).
The number of a mask of some length has that many ones at the top and zeros
below (`Netmask.testBit_value`). A text has the length of a mask exactly if it
is an address whose bits are that many ones followed by zeros, so that the
length is read back from the text of every mask (`Netmask.prefixLength?_inverse`).
-/

namespace InterfaceAddress

open Wire

/-- The octets of an address as one number, the most significant first. -/
def Address.value (address : Address) : Nat := natOfOctets address.octets

/-- The bit at a position of an address, the most significant first. -/
def Address.bit (address : Address) (position : Nat) : Bool :=
  address.value.testBit (address.family.width - 1 - position)

/-- The bits of an address are this many ones followed by zeros. -/
structure Address.IsMask (address : Address) (length : Nat) : Prop where
  short : length ≤ address.family.width
  bits : ∀ position < address.family.width, address.bit position = decide (position < length)

namespace Netmask

/-! ### Bits in network order -/

/-- The bits of octets are those of the number they denote. -/
theorem flatMap_octetBits (octets : List UInt8) :
    octets.flatMap octetBits = (List.range (8 * octets.length)).map fun position =>
      (natOfOctets octets).testBit (8 * octets.length - 1 - position) := by
  induction octets with
  | nil => rfl
  | cons octet rest ih =>
    have size : capacity rest.length = 2 ^ (8 * rest.length) := by
      rw [capacity_eq, Nat.pow_mul]
    have small := natOfOctets_lt rest
    have whole : natOfOctets (octet :: rest) =
        2 ^ (8 * rest.length) * octet.toNat + natOfOctets rest := by
      rw [natOfOctets_cons, size, Nat.mul_comm]
    have positions : List.range (8 * (rest.length + 1)) =
        List.range 8 ++ (List.range (8 * rest.length)).map (8 + ·) := by
      rw [Nat.mul_succ, Nat.add_comm, List.range_add]
    rw [size] at small
    rw [List.flatMap_cons, ih, whole, List.length_cons, positions, List.map_append, List.map_map,
      octetBits]
    congr 1
    · apply List.map_congr_left
      intro position member
      have inside := List.mem_range.mp member
      rw [Nat.testBit_two_pow_mul_add _ small, if_neg (by omega)]
      congr 1
      omega
    · apply List.map_congr_left
      intro position member
      have inside := List.mem_range.mp member
      rw [Function.comp_apply, Nat.testBit_two_pow_mul_add _ small, if_pos (by omega)]
      congr 1
      omega

theorem bits_eq (address : Address) :
    bits address = (List.range address.family.width).map address.bit := by
  rw [bits, flatMap_octetBits, ← address.width_family]
  rfl

/-! ### Counting ones -/

theorem countOnes?_one (rest : List Bool) :
    countOnes? (true :: rest) = (countOnes? rest).map (· + 1) := by
  simp only [countOnes?, List.span_eq_takeWhile_dropWhile, List.takeWhile_cons, id_eq, ↓reduceIte,
    List.dropWhile_cons, List.length_cons]
  split <;> rfl

theorem countOnes?_zero (rest : List Bool) :
    countOnes? (false :: rest) = if true ∈ rest then none else some 0 := by
  simp [countOnes?, List.span_eq_takeWhile_dropWhile]

/-- Ones are counted exactly if only zeros follow them. -/
theorem countOnes?_eq_some_iff {bits : List Bool} {length : Nat} :
    countOnes? bits = some length ↔
      ∃ zeros, bits = List.replicate length true ++ List.replicate zeros false := by
  induction bits generalizing length with
  | nil =>
    constructor
    · rintro ⟨⟩
      exact ⟨0, rfl⟩
    · rintro ⟨zeros, split⟩
      cases length with
      | zero => rfl
      | succ count => cases split
  | cons bit rest ih =>
    cases bit with
    | true =>
      rw [countOnes?_one, Option.map_eq_some_iff]
      constructor
      · rintro ⟨count, counted, rfl⟩
        obtain ⟨zeros, rfl⟩ := ih.mp counted
        exact ⟨zeros, rfl⟩
      · rintro ⟨zeros, split⟩
        cases length with
        | zero => cases zeros <;> cases split
        | succ count => exact ⟨count, ih.mpr ⟨zeros, List.tail_eq_of_cons_eq split⟩, rfl⟩
    | false =>
      rw [countOnes?_zero]
      constructor
      · intro counted
        split_ifs at counted with later
        cases counted
        refine ⟨rest.length + 1, ?_⟩
        have zeros : ∀ bit ∈ rest, bit = false := by
          intro bit member
          cases bit with
          | false => rfl
          | true => exact absurd member later
        rw [List.replicate_zero, List.nil_append, List.replicate_succ,
          ← List.eq_replicate_of_mem zeros]
      · rintro ⟨zeros, split⟩
        cases length with
        | succ count => cases split
        | zero =>
          rw [if_neg]
          intro later
          rw [List.replicate_zero, List.nil_append] at split
          have member := List.mem_cons_of_mem false later
          rw [split] at member
          cases List.eq_of_mem_replicate member

/-- Ones are counted in an address exactly if its bits are these ones followed by zeros. -/
theorem countOnes?_bits_eq_some_iff {address : Address} {length : Nat} :
    countOnes? (bits address) = some length ↔ address.IsMask length := by
  rw [countOnes?_eq_some_iff, bits_eq]
  constructor
  · rintro ⟨zeros, split⟩
    have total := congrArg List.length split
    simp only [List.length_map, List.length_range, List.length_append,
      List.length_replicate] at total
    refine ⟨by omega, ?_⟩
    intro position inside
    have here := congrArg (·[position]?) split
    simp only [List.getElem?_map, List.getElem?_range inside, Option.map_some,
      List.getElem?_append, List.length_replicate, List.getElem?_replicate] at here
    by_cases one : position < length
    · rw [if_pos one, if_pos one] at here
      rw [Option.some.inj here, decide_eq_true one]
    · rw [if_neg one, if_pos (by omega)] at here
      rw [Option.some.inj here, decide_eq_false one]
  · rintro ⟨short, isMask⟩
    refine ⟨address.family.width - length, ?_⟩
    apply List.ext_getElem
    · simp only [List.length_map, List.length_range, List.length_append, List.length_replicate]
      omega
    · intro position inside _
      rw [List.length_map, List.length_range] at inside
      simp only [List.getElem_map, List.getElem_range, List.getElem_append,
        List.length_replicate, List.getElem_replicate, isMask position inside]
      by_cases one : position < length
      · rw [dif_pos one, decide_eq_true one]
      · rw [dif_neg one, decide_eq_false one]

theorem prefixLength?_eq_some_iff {text : String} {length : Nat} :
    prefixLength? text = some length ↔
      ∃ mask, Address.read? text false = some mask ∧ mask.IsMask length := by
  rw [prefixLength?, Option.bind_eq_some_iff]
  simp only [countOnes?_bits_eq_some_iff]

/-! ### Masks of every length -/

/-- The mask of a family with this many ones. -/
def ofLength (family : Family) (length : Nat) : Address where
  octets := writeNat family.octetCount (value family.width length)
  length_octets := by
    rw [length_writeNat]
    cases family <;> decide

@[simp] theorem family_ofLength (family : Family) (length : Nat) :
    (ofLength family length).family = family := by
  rw [Address.family, ofLength, length_writeNat]
  cases family <;> rfl

theorem value_ofLength (family : Family) (length : Nat) :
    (ofLength family length).value = value family.width length := by
  have small := value_lt family.width length
  rw [Family.width, Nat.pow_mul] at small
  rw [Address.value, ofLength, natOfOctets_writeNat, capacity_eq]
  exact Nat.mod_eq_of_lt small

theorem isMask_ofLength {family : Family} {length : Nat} (short : length ≤ family.width) :
    (ofLength family length).IsMask length := by
  refine ⟨by rwa [family_ofLength], ?_⟩
  intro position inside
  rw [family_ofLength] at inside
  rw [Address.bit, family_ofLength, value_ofLength, testBit_value short]
  have low : family.width - 1 - position < family.width := by omega
  have high : family.width - length ≤ family.width - 1 - position ↔ position < length := by omega
  simp only [low, high, decide_true, Bool.and_true]

/-- No address that embeds another is a mask: its bits begin with zeros and then come ones. -/
theorem not_isMask_of_isMapped {address : Address} (mapped : address.isMapped = true)
    (length : Nat) : ¬ address.IsMask length := by
  obtain ⟨embedded, embeds⟩ := Address.isMapped_iff.mp mapped
  have header : Address.mappedHeader.flatMap octetBits =
      false :: (List.replicate 79 false ++ List.replicate 16 true) := by
    decide
  have later : true ∈ List.replicate 79 false ++ List.replicate 16 true ++
      embedded.octets.flatMap octetBits :=
    List.mem_append_left _ (List.mem_append_right _ (List.mem_replicate.mpr ⟨by decide, rfl⟩))
  rw [← countOnes?_bits_eq_some_iff, bits, embeds, List.flatMap_append, header, List.cons_append,
    countOnes?_zero, if_pos later]
  exact nofun

/-- **The length of a mask is read back from its text, and no other text has one.** A text has a
length exactly if it is read as an address, which is never collapsed, whose bits are that many ones
followed by zeros. So both families have a mask of every length up to their width, whose text has
that length, and no length is more than the width of the address that was read. An address that
embeds another has the wide family and is no mask. -/
theorem prefixLength?_inverse :
    (∀ text length, prefixLength? text = some length ↔
      ∃ mask, Address.read? text false = some mask ∧ mask.IsMask length) ∧
    (∀ family length, length ≤ family.width →
      (ofLength family length).family = family ∧ (ofLength family length).IsMask length ∧
        prefixLength? (ofLength family length).text = some length) ∧
    ∀ text mask, Address.read? text false = some mask →
      (∀ length, prefixLength? text = some length → length ≤ mask.family.width) ∧
      (mask.isMapped = true → mask.family.width = 128 ∧ prefixLength? text = none) := by
  refine ⟨fun text length => prefixLength?_eq_some_iff, ?_, ?_⟩
  · intro family length short
    have isMask := isMask_ofLength short
    exact ⟨family_ofLength family length, isMask,
      prefixLength?_eq_some_iff.mpr ⟨_, (ofLength family length).read?_text_eq false, isMask⟩⟩
  · intro text mask read
    have isMask {length : Nat} (found : prefixLength? text = some length) :
        mask.IsMask length := by
      obtain ⟨other, alsoRead, isMask⟩ := prefixLength?_eq_some_iff.mp found
      rwa [Option.some.inj (read.symm.trans alsoRead)]
    refine ⟨fun length found => (isMask found).short, fun mapped => ⟨?_, ?_⟩⟩
    · obtain ⟨embedded, embeds⟩ := Address.isMapped_iff.mp mapped
      rw [mask.width_family, embeds.length_octets.1]
    · rw [Option.eq_none_iff_forall_ne_some]
      intro length found
      exact not_isMask_of_isMapped mapped length (isMask found)

/-- A mask of four octets has a length, unless it is written as an embedded address. -/
theorem prefixLength?_inverse_mapped :
    (∃ mask, Address.read? "255.255.240.0" false = some mask ∧ mask.IsMask 20) ∧
    prefixLength? (ofLength .v6 10).text = some 10 ∧
    ∃ mask, Address.read? "::ffff:255.255.240.0" false = some mask ∧ mask.isMapped = true ∧
      mask.family.width = 128 ∧ prefixLength? "::ffff:255.255.240.0" = none := by
  let mask : Address :=
    ⟨[0, 0, 0, 0, 0, 0, 0, 0, 0, 0, 255, 255, 255, 255, 240, 0], .inr rfl⟩
  have found : prefixLength? "255.255.240.0" = some 20 := by
    decide +kernel
  have read : Address.read? "::ffff:255.255.240.0" false = some mask := by
    decide +kernel
  have mapped : mask.isMapped = true := by
    decide
  obtain ⟨isRead, isWritten, isBounded⟩ := prefixLength?_inverse
  exact ⟨(isRead _ _).mp found, (isWritten .v6 10 (by decide)).2.2, mask, read, mapped,
    (isBounded _ mask read).2 mapped⟩

end Netmask

end InterfaceAddress
