import InterfaceAddress.Proofs.Descriptor.Invariant
import InterfaceAddress.Proofs.Number.Word
import Mathlib

/-! # Hashes are polynomials

A hash is a word that is multiplied by 31 at each field before the field is
added in double precision. Where all fields are integers of at most 32 bits no
sum is rounded (`HashesExactly`), so that every step can be taken over the
integers and the total reduced to a word once (`HashesExactly.toInt_result`).
The total is a polynomial in 31 whose coefficients are the fields behind a
leading one, both for the octets of an address and for the numbers of a
descriptor (`toInt_hash_eq_bmod`).
-/

namespace InterfaceAddress

/-! ### Totals over the integers -/

/-- A total is multiplied by 31 before a value is added to it. -/
def hornerStep (total value : Int) : Int := 31 * total + value

/-- A value that is followed by `n` others is multiplied by 31 `n` times. -/
theorem foldl_hornerStep (values : List Int) (total : Int) :
    values.foldl hornerStep total =
      total * 31 ^ values.length + ∑ position ∈ Finset.range values.length,
        values.getD position 0 * 31 ^ (values.length - 1 - position) := by
  induction values generalizing total with
  | nil => simp
  | cons value rest ih =>
    have tail : ∑ position ∈ Finset.range rest.length,
        (value :: rest).getD (position + 1) 0 * 31 ^ (rest.length - (position + 1)) =
          ∑ position ∈ Finset.range rest.length,
            rest.getD position 0 * 31 ^ (rest.length - 1 - position) := by
      refine Finset.sum_congr rfl fun position _ => ?_
      rw [List.getD_cons_succ, Nat.sub_sub, Nat.add_comm 1]
    rw [List.foldl_cons, ih, hornerStep, List.length_cons, Finset.sum_range_succ',
      Nat.add_sub_cancel, tail, List.getD_cons_zero, Nat.sub_zero]
    ring

/-- A step from the word of a total leads to the word of the next total. -/
theorem ofInt_hornerStep (total value : Int) :
    BitVec.ofInt 32 ((31 * BitVec.ofInt 32 total).toInt + value) =
      BitVec.ofInt 32 (hornerStep total value) := by
  rw [hornerStep, BitVec.ofInt_add, BitVec.ofInt_add, BitVec.ofInt_toInt, BitVec.ofInt_mul]
  rfl

/-! ### Runs in which no sum is rounded -/

/-- A hash runs from one word to another over fields with these integer values, and in double
precision each of its sums is the sum of the integers. -/
inductive HashesExactly : BitVec 32 → List Binary64 → List Int → BitVec 32 → Prop where
  | nil (hash : BitVec 32) : HashesExactly hash [] [] hash
  | cons {hash result : BitVec 32} {field : Binary64} {fields : List Binary64} {value : Int}
      {values : List Int} (isInteger : field.toInt? = some value)
      (exact : (Binary64.ofInt (31 * hash).toInt + field).toInt? = some ((31 * hash).toInt + value))
      (rest : HashesExactly (Binary64.ofInt (31 * hash).toInt + field).toBits32 fields values
        result) : HashesExactly hash (field :: fields) (value :: values) result

variable {hash result : BitVec 32} {field : Binary64} {fields : List Binary64} {value : Int}
  {values : List Int}

/-- The sum of two integers of 32 bits, signed or not, is far below `2 ^ 53`. -/
theorem toInt?_hashSum (hash : BitVec 32) (isInteger : field.toInt? = some value)
    (small : value.natAbs ≤ 2 ^ 32) :
    (Binary64.ofInt (31 * hash).toInt + field).toInt? = some ((31 * hash).toInt + value) := by
  have low := BitVec.le_toInt (31 * hash)
  have high := BitVec.toInt_lt (x := 31 * hash)
  have word : (Binary64.ofInt (31 * hash).toInt).toInt? = some (31 * hash).toInt :=
    Binary64.toInt?_ofInt (by omega)
  exact Binary64.toInt?_add word isInteger (by omega)

/-- A step over an integer of 32 bits is a step in the arithmetic of words. -/
theorem hashStep_of_toInt? (hash : BitVec 32) (isInteger : field.toInt? = some value)
    (small : value.natAbs ≤ 2 ^ 32) :
    Descriptor.hashStep hash field = 31 * hash + BitVec.ofInt 32 value := by
  rw [Descriptor.hashStep, Binary64.toBits32_of_toInt? (toInt?_hashSum hash isInteger small),
    BitVec.ofInt_add, BitVec.ofInt_toInt]

/-- The hash over integers of 32 bits rounds no sum. -/
theorem hashesExactly_foldl
    (fit : List.Forall₂ (fun field value => field.toInt? = some value ∧ value.natAbs ≤ 2 ^ 32)
      fields values) (hash : BitVec 32) :
    HashesExactly hash fields values (fields.foldl Descriptor.hashStep hash) := by
  induction fit generalizing hash with
  | nil => exact .nil hash
  | cons first _ ih => exact .cons first.1 (toInt?_hashSum hash first.1 first.2) (ih _)

namespace HashesExactly

/-- The run is that of the totals, reduced to words. -/
theorem result_eq (run : HashesExactly hash fields values result) {total : Int}
    (start : hash = BitVec.ofInt 32 total) :
    result = BitVec.ofInt 32 (values.foldl hornerStep total) := by
  -- what the word has lost of the total, the result has lost as well
  induction run generalizing total with
  | nil => exact start
  | cons _ exact _ ih =>
    apply ih
    rw [Binary64.toBits32_of_toInt? exact, start, ofInt_hornerStep]

/-- As a signed number the result is the total, reduced once to the range of a word. -/
theorem toInt_result (run : HashesExactly 1 fields values result) :
    result.toInt = Int.bmod (values.foldl hornerStep 1) (2 ^ 32) := by
  have start : (1 : BitVec 32) = BitVec.ofInt 32 1 := rfl
  rw [run.result_eq start, BitVec.toInt_ofInt]

end HashesExactly

/-! ### Addresses -/

namespace Address

/-- The octets as numbers. -/
def octetNumbers (address : Address) : List Binary64 :=
  address.octets.map fun octet => .ofNat octet.toNat

/-- The octets as integers. -/
def octetValues (address : Address) : List Int := address.octets.map fun octet => octet.toNat

theorem toInt?_octet (octet : UInt8) :
    (Binary64.ofNat octet.toNat).toInt? = some (octet.toNat : Int) :=
  Binary64.toInt?_ofNat (Nat.lt_trans octet.toNat_lt (by decide))

theorem natAbs_octet_le (octet : UInt8) : (octet.toNat : Int).natAbs ≤ 2 ^ 32 := by
  have small := octet.toNat_lt
  omega

/-- To add an octet to a word is to add its number in double precision. -/
theorem hash_eq_foldl (address : Address) :
    address.hash = address.octetNumbers.foldl Descriptor.hashStep 1 := by
  have step (hash : BitVec 32) (octet : UInt8) :
      31 * hash + BitVec.ofNat 32 octet.toNat =
        Descriptor.hashStep hash (.ofNat octet.toNat) := by
    rw [hashStep_of_toInt? hash (toInt?_octet octet) (natAbs_octet_le octet), BitVec.ofInt_natCast]
  rw [hash, octetNumbers, List.foldl_map]
  simp only [step]

theorem hashesExactly (address : Address) :
    HashesExactly 1 address.octetNumbers address.octetValues address.hash := by
  rw [hash_eq_foldl]
  apply hashesExactly_foldl
  rw [octetNumbers, octetValues, List.forall₂_map_left_iff, List.forall₂_map_right_iff,
    List.forall₂_same]
  exact fun octet _ => ⟨toInt?_octet octet, natAbs_octet_le octet⟩

theorem getD_octetValues (address : Address) (position : Nat) :
    address.octetValues.getD position 0 = (address.octet position).toNat :=
  List.getD_map _ 0 fun octet : UInt8 => (octet.toNat : Int)

/-- The total over the octets is the polynomial with the octets as coefficients. -/
theorem foldl_octetValues (address : Address) :
    address.octetValues.foldl hornerStep 1 =
      31 ^ address.octets.length + ∑ position ∈ Finset.range address.octets.length,
        ((address.octet position).toNat : Int) * 31 ^ (address.octets.length - 1 - position) := by
  have length : address.octetValues.length = address.octets.length := List.length_map ..
  simp only [foldl_hornerStep, length, getD_octetValues, Int.one_mul]

end Address

/-! ### Descriptors -/

/-- The fields of a descriptor are small if its flags and scope fit their words. -/
theorem Descriptor.exists_hashesExactly {descriptor : Descriptor}
    (wellFormed : descriptor.WellFormed) (fitsWords : descriptor.FitsWords) :
    ∃ length flags scope : Int, descriptor.prefixLength.toInt? = some length ∧
      descriptor.storedFlags.toInt? = some flags ∧ descriptor.scope.toInt? = some scope ∧
      HashesExactly 1 [.ofInt descriptor.address.hash.toInt, descriptor.prefixLength,
        descriptor.storedFlags, descriptor.scope]
        [descriptor.address.hash.toInt, length, flags, scope] descriptor.hash := by
  obtain ⟨length, lengthInteger, lengthLow, lengthHigh⟩ := wellFormed.toInvariant.prefixLength
  obtain ⟨flags, flagsInteger, flagsLow, flagsHigh⟩ := fitsWords.flags
  obtain ⟨scope, scopeInteger, scopeLow, scopeHigh⟩ := fitsWords.scope
  have hashLow := BitVec.le_toInt descriptor.address.hash
  have hashHigh := BitVec.toInt_lt (x := descriptor.address.hash)
  have hashInteger : (Binary64.ofInt descriptor.address.hash.toInt).toInt? =
      some descriptor.address.hash.toInt := Binary64.toInt?_ofInt (by omega)
  have short : length ≤ 128 := by
    split at lengthHigh <;> omega
  exact ⟨length, flags, scope, lengthInteger, flagsInteger, scopeInteger,
    hashesExactly_foldl (.cons ⟨hashInteger, by omega⟩ (.cons ⟨lengthInteger, by omega⟩
      (.cons ⟨flagsInteger, by omega⟩ (.cons ⟨scopeInteger, by omega⟩ .nil)))) 1⟩

/-- **Hashes are polynomials in 31, reduced once to a signed word.** The coefficients behind a
leading one are the octets of an address, and for a descriptor the hash of its address, its prefix
length, its flags and its scope, where the last two fit their words. On the way to either hash no
sum is rounded in double precision. -/
theorem toInt_hash_eq_bmod :
    (∀ address : Address,
      address.hash.toInt = Int.bmod (31 ^ address.octets.length +
        ∑ position ∈ Finset.range address.octets.length,
          ((address.octet position).toNat : Int) *
            31 ^ (address.octets.length - 1 - position)) (2 ^ 32) ∧
      HashesExactly 1 address.octetNumbers address.octetValues address.hash) ∧
    ∀ descriptor : Descriptor, descriptor.Obtained → descriptor.FitsWords →
      ∃ length flags scope : Int, descriptor.prefixLength.toInt? = some length ∧
        descriptor.storedFlags.toInt? = some flags ∧ descriptor.scope.toInt? = some scope ∧
        descriptor.hash.toInt = Int.bmod (31 ^ 4 + 31 ^ 3 * descriptor.address.hash.toInt +
          31 ^ 2 * length + 31 * flags + scope) (2 ^ 32) ∧
        HashesExactly 1 [.ofInt descriptor.address.hash.toInt, descriptor.prefixLength,
          descriptor.storedFlags, descriptor.scope]
          [descriptor.address.hash.toInt, length, flags, scope] descriptor.hash := by
  constructor
  · intro address
    have run := address.hashesExactly
    exact ⟨by rw [run.toInt_result, address.foldl_octetValues], run⟩
  · intro descriptor obtained fitsWords
    obtain ⟨length, flags, scope, lengthInteger, flagsInteger, scopeInteger, run⟩ :=
      Descriptor.exists_hashesExactly obtained.wellFormed fitsWords
    refine ⟨length, flags, scope, lengthInteger, flagsInteger, scopeInteger, ?_, run⟩
    rw [run.toInt_result]
    congr 1
    simp only [List.foldl_cons, List.foldl_nil, hornerStep]
    ring

/-- The hash of the address is below zero, and flags and scope are as large as words can be. -/
theorem toInt_hash_eq_bmod_negative :
    let address : Address := ⟨[0x20, 0x01, 0x0d, 0xb8] ++ List.replicate 11 0 ++ [1], .inr rfl⟩
    let descriptor : Descriptor :=
      ⟨address, 64, .ofNat (2 ^ 32 - 1), .ofInt (-2 ^ 31), ⟨.unknown, .unknown⟩⟩
    descriptor.Obtained ∧ descriptor.FitsWords ∧ address.hash.toInt = -1020203538 ∧
      descriptor.hash.toInt = Int.bmod (31 ^ 4 + 31 ^ 3 * -1020203538 + 31 ^ 2 * 64 +
        31 * (2 ^ 32 - 1) + -2 ^ 31) (2 ^ 32) ∧
      HashesExactly 1 [.ofInt (-1020203538), 64, .ofNat (2 ^ 32 - 1), .ofInt (-2 ^ 31)]
        [-1020203538, 64, 2 ^ 32 - 1, -2 ^ 31] descriptor.hash ∧
      descriptor.hash.toInt = 453454580 := by
  intro address descriptor
  have created : (Draft.tryCreate ⟨.text "2001:db8::1", some 64,
      ⟨some (.ofNat (2 ^ 32 - 1)), some (.ofInt (-2 ^ 31)), none, none⟩⟩ (some false)
      .initial).result = .ok (.ok descriptor) := by
    decide +kernel
  have prefixInteger : descriptor.prefixLength.toInt? = some 64 := by
    decide +kernel
  have flagsInteger : descriptor.storedFlags.toInt? = some (2 ^ 32 - 1) := by
    decide +kernel
  have scopeInteger : descriptor.scope.toInt? = some (-2 ^ 31) := by
    decide +kernel
  have fitsWords : descriptor.FitsWords :=
    ⟨⟨_, flagsInteger, by decide, by decide⟩, ⟨_, scopeInteger, by decide, by decide⟩⟩
  obtain ⟨addresses, descriptors⟩ := toInt_hash_eq_bmod
  have addressHash : descriptor.address.hash.toInt = -1020203538 := by
    rw [(addresses descriptor.address).1]
    decide +kernel
  obtain ⟨length, flags, scope, lengthEqual, flagsEqual, scopeEqual, polynomial, run⟩ :=
    descriptors descriptor (.tryCreate created) fitsWords
  obtain rfl := Option.some.inj (prefixInteger.symm.trans lengthEqual)
  obtain rfl := Option.some.inj (flagsInteger.symm.trans flagsEqual)
  obtain rfl := Option.some.inj (scopeInteger.symm.trans scopeEqual)
  rw [addressHash] at polynomial run
  exact ⟨.tryCreate created, fitsWords, addressHash, polynomial, run,
    polynomial.trans (by decide)⟩

end InterfaceAddress
