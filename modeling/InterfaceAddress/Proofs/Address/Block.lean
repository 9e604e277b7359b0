import InterfaceAddress.Proofs.Address.Netmask
import Mathlib

/-! # Blocks of addresses

An address is in a block if it shares its leading bits with the network of the
block. Each kind of address has a block in one family or in both
(`AddressKind.block?`), and the tests of the octets say exactly whether an
address is in it (`AddressKind.test_iff`). Blocks of different kinds have no
address in common (`AddressKind.Contains.unique`).
-/

namespace InterfaceAddress

open Wire

/-- The numbers that share their leading bits with a network. -/
structure Block where
  network : Nat
  length : Nat
deriving DecidableEq

/-- The leading bits of an address are those of the network of a block. -/
def Address.IsIn (address : Address) (block : Block) : Prop :=
  address.value / 2 ^ (address.family.width - block.length) =
    block.network / 2 ^ (address.family.width - block.length)

instance (address : Address) (block : Block) : Decidable (address.IsIn block) :=
  inferInstanceAs (Decidable (_ = _))

/-- The kinds of addresses that have blocks of their own. -/
inductive AddressKind where
  | unspecified
  | loopback
  | linkLocal
  | siteLocal
  | multicast
  | uniqueLocal
  | embedding
deriving DecidableEq

namespace AddressKind

def all : List AddressKind :=
  [unspecified, loopback, linkLocal, siteLocal, multicast, uniqueLocal, embedding]

theorem mem_all (kind : AddressKind) : kind ∈ all := by
  cases kind <;> decide

/-- The test of the octets for a kind. -/
def test : AddressKind → Address → Bool
  | unspecified => Address.isUnspecified
  | loopback => Address.isLoopback
  | linkLocal => Address.isLinkLocal
  | siteLocal => Address.isSiteLocal
  | multicast => Address.isMulticast
  | uniqueLocal => Address.isUniqueLocal
  | embedding => Address.isMapped

/-- The block of a kind in a family, if it has one there. -/
def block? : AddressKind → Family → Option Block
  -- `0.0.0.0/32` and `::/128`
  | unspecified, .v4 => some ⟨0, 32⟩
  | unspecified, .v6 => some ⟨0, 128⟩
  -- `127.0.0.0/8` and `::1/128`
  | loopback, .v4 => some ⟨0x7f000000, 8⟩
  | loopback, .v6 => some ⟨1, 128⟩
  -- `169.254.0.0/16` and `fe80::/10`
  | linkLocal, .v4 => some ⟨0xa9fe0000, 16⟩
  | linkLocal, .v6 => some ⟨0xfe80 * 2 ^ 112, 10⟩
  -- `fec0::/10`
  | siteLocal, .v4 => none
  | siteLocal, .v6 => some ⟨0xfec0 * 2 ^ 112, 10⟩
  -- `224.0.0.0/4` and `ff00::/8`
  | multicast, .v4 => some ⟨0xe0000000, 4⟩
  | multicast, .v6 => some ⟨0xff00 * 2 ^ 112, 8⟩
  -- `fc00::/7`
  | uniqueLocal, .v4 => none
  | uniqueLocal, .v6 => some ⟨0xfc00 * 2 ^ 112, 7⟩
  -- `::ffff:0:0/96`
  | embedding, .v4 => none
  | embedding, .v6 => some ⟨0xffff * 2 ^ 32, 96⟩

/-- An address is in the block that a kind has in its family. -/
def Contains (kind : AddressKind) (address : Address) : Prop :=
  ∃ block ∈ kind.block? address.family, address.IsIn block

end AddressKind

/-! ### Leading octets -/

namespace Address

variable {address : Address} {block : Block}

/-- Whether an address is in a block is decided by octets that cover its leading bits. -/
theorem isIn_iff_take (count : Nat) (inside : count ≤ address.octets.length)
    (covered : block.length ≤ 8 * count) :
    address.IsIn block ↔ natOfOctets (address.octets.take count) / 2 ^ (8 * count - block.length) =
      block.network / 2 ^ (address.family.width - block.length) := by
  have behind := natOfOctets_lt (address.octets.drop count)
  have whole := natOfOctets_append (address.octets.take count) (address.octets.drop count)
  rw [List.take_append_drop] at whole
  have front : address.value / capacity (address.octets.drop count).length =
      natOfOctets (address.octets.take count) := by
    rw [value, whole, Nat.mul_comm, Nat.mul_add_div (capacity_pos _), Nat.div_eq_of_lt behind,
      Nat.add_zero]
  have scale : 2 ^ (address.family.width - block.length) =
      capacity (address.octets.drop count).length * 2 ^ (8 * count - block.length) := by
    rw [capacity_eq, List.length_drop, address.width_family, show 256 = 2 ^ 8 from rfl,
      ← Nat.pow_mul, ← Nat.pow_add]
    congr 1
    omega
  rw [IsIn, ← front, Nat.div_div_eq_div_mul, ← scale]

theorem all_zero_iff (octets : List UInt8) :
    octets.all (· = 0) = true ↔ natOfOctets octets = 0 := by
  simp only [List.all_eq_true, decide_eq_true_eq, natOfOctets_eq_zero_iff]

theorem natOfOctets_take_succ {count : Nat} (inside : count < address.octets.length) :
    natOfOctets (address.octets.take (count + 1)) =
      256 * natOfOctets (address.octets.take count) + (address.octet count).toNat := by
  rw [List.take_succ_eq_append_getElem inside, natOfOctets_append, octet,
    List.getD_eq_getElem _ _ inside, natOfOctets_cons, List.length_singleton, List.length_nil,
    capacity_eq, capacity_eq]
  simp [natOfOctets, Nat.mul_comm]

theorem natOfOctets_take_one (address : Address) :
    natOfOctets (address.octets.take 1) = (address.octet 0).toNat := by
  have known := address.length_octets
  rw [natOfOctets_take_succ (by omega), List.take_zero, natOfOctets, List.foldl_nil, Nat.mul_zero,
    Nat.zero_add]

theorem natOfOctets_take_two (address : Address) :
    natOfOctets (address.octets.take 2) =
      256 * (address.octet 0).toNat + (address.octet 1).toNat := by
  have known := address.length_octets
  rw [natOfOctets_take_succ (by omega), natOfOctets_take_one]

theorem length_octets_of_family {family : Family} (isFamily : address.family = family) :
    address.octets.length = family.octetCount := by
  have known := address.width_family
  rw [isFamily, Family.width] at known
  omega

end Address

/-! ### The tests and the blocks -/

namespace AddressKind

section OfFamily

variable {kind : AddressKind} {address : Address} {family : Family} {block : Block}
  (isFamily : address.family = family)
include isFamily

theorem contains_iff_of_block (has : kind.block? family = some block) :
    kind.Contains address ↔ address.IsIn block := by
  simp only [Contains, isFamily, has, Option.mem_def, Option.some.injEq, exists_eq_left']

theorem not_contains_of_no_block (hasNone : kind.block? family = none) :
    ¬ kind.Contains address := by
  simp only [Contains, isFamily, hasNone, Option.mem_def, reduceCtorEq, false_and, exists_false,
    not_false_eq_true]

/-- A block is decided by the number of octets that cover its leading bits. -/
theorem contains_iff_take (has : kind.block? family = some block) (count front : Nat)
    (leads : block.network / 2 ^ (family.width - block.length) = front)
    (inside : count ≤ family.octetCount) (covered : block.length ≤ 8 * count) :
    kind.Contains address ↔
      natOfOctets (address.octets.take count) / 2 ^ (8 * count - block.length) = front := by
  rw [← Address.length_octets_of_family isFamily] at inside
  rw [contains_iff_of_block isFamily has, Address.isIn_iff_take count inside covered, isFamily,
    leads]

end OfFamily

variable (address : Address)

theorem test_unspecified_iff :
    unspecified.test address = true ↔ unspecified.Contains address := by
  have whole : unspecified.test address = true ↔ address.value = 0 := Address.all_zero_iff _
  cases family : address.family with
  | v4 =>
    rw [whole, contains_iff_of_block family rfl, Address.IsIn, family]
    simp [Family.width, Family.octetCount]
  | v6 =>
    rw [whole, contains_iff_of_block family rfl, Address.IsIn, family]
    simp [Family.width, Family.octetCount]

theorem test_loopback_iff : loopback.test address = true ↔ loopback.Contains address := by
  cases family : address.family with
  | v4 =>
    rw [contains_iff_take family rfl 1 127 rfl (by decide) (by decide),
      Address.natOfOctets_take_one, test, Address.isLoopback, family]
    simp only [decide_eq_true_eq, ← UInt8.toNat_inj, UInt8.reduceToNat]
    omega
  | v6 =>
    -- the block fixes all bits, those of fifteen zeros and of the last octet
    have sixteen : address.octets.length = 16 := Address.length_octets_of_family family
    have whole : natOfOctets (address.octets.take 16) =
        256 * natOfOctets (address.octets.take 15) + (address.octet 15).toNat :=
      Address.natOfOctets_take_succ (by omega)
    have small := (address.octet 15).toNat_lt
    rw [contains_iff_take family rfl 16 1 rfl (by decide) (by decide), whole, test,
      Address.isLoopback, family]
    simp only [Bool.and_eq_true, Address.all_zero_iff, decide_eq_true_eq]
    simp only [← UInt8.toNat_inj, UInt8.reduceToNat, Nat.reduceMul, Nat.sub_self,
      Nat.pow_zero, Nat.div_one]
    omega

theorem test_linkLocal_iff : linkLocal.test address = true ↔ linkLocal.Contains address := by
  have small := (address.octet 1).toNat_lt
  cases family : address.family with
  | v4 =>
    rw [contains_iff_take family rfl 2 0xa9fe rfl (by decide) (by decide),
      Address.natOfOctets_take_two, test, Address.isLinkLocal, family]
    simp only [Bool.and_eq_true, decide_eq_true_eq, ← UInt8.toNat_inj, UInt8.reduceToNat]
    omega
  | v6 =>
    have masked : address.octet 1 &&& 0xc0 = 0x80 ↔ _ :=
      Netmask.and_eq_iff (by decide : 2 ≤ 8) rfl
    rw [contains_iff_take family rfl 2 0x3fa rfl (by decide) (by decide),
      Address.natOfOctets_take_two, test, Address.isLinkLocal, family]
    simp only [Bool.and_eq_true, decide_eq_true_eq, masked, ← UInt8.toNat_inj, UInt8.reduceToNat]
    omega

theorem test_siteLocal_iff : siteLocal.test address = true ↔ siteLocal.Contains address := by
  cases family : address.family with
  | v4 =>
    rw [test, Address.isSiteLocal, family]
    exact iff_of_false Bool.false_ne_true (not_contains_of_no_block family rfl)
  | v6 =>
    have small := (address.octet 1).toNat_lt
    have masked : address.octet 1 &&& 0xc0 = 0xc0 ↔ _ :=
      Netmask.and_eq_iff (by decide : 2 ≤ 8) rfl
    rw [contains_iff_take family rfl 2 0x3fb rfl (by decide) (by decide),
      Address.natOfOctets_take_two, test, Address.isSiteLocal, family]
    simp only [Bool.and_eq_true, decide_eq_true_eq, masked, ← UInt8.toNat_inj, UInt8.reduceToNat]
    omega

theorem test_multicast_iff : multicast.test address = true ↔ multicast.Contains address := by
  cases family : address.family with
  | v4 =>
    have masked : address.octet 0 &&& 0xf0 = 0xe0 ↔ _ :=
      Netmask.and_eq_iff (by decide : 4 ≤ 8) rfl
    rw [contains_iff_take family rfl 1 0xe rfl (by decide) (by decide),
      Address.natOfOctets_take_one, test, Address.isMulticast, family]
    simp only [decide_eq_true_eq, masked, UInt8.reduceToNat]
    omega
  | v6 =>
    rw [contains_iff_take family rfl 1 0xff rfl (by decide) (by decide),
      Address.natOfOctets_take_one, test, Address.isMulticast, family]
    simp only [decide_eq_true_eq, ← UInt8.toNat_inj, UInt8.reduceToNat]
    omega

theorem test_uniqueLocal_iff :
    uniqueLocal.test address = true ↔ uniqueLocal.Contains address := by
  cases family : address.family with
  | v4 =>
    rw [test, Address.isUniqueLocal, family]
    exact iff_of_false Bool.false_ne_true (not_contains_of_no_block family rfl)
  | v6 =>
    have masked : address.octet 0 &&& 0xfe = 0xfc ↔ _ :=
      Netmask.and_eq_iff (by decide : 7 ≤ 8) rfl
    rw [contains_iff_take family rfl 1 0x7e rfl (by decide) (by decide),
      Address.natOfOctets_take_one, test, Address.isUniqueLocal, family]
    simp only [decide_eq_true_eq, masked, UInt8.reduceToNat]
    omega

theorem test_embedding_iff : embedding.test address = true ↔ embedding.Contains address := by
  cases family : address.family with
  | v4 =>
    have four : address.octets.length = 4 := Address.length_octets_of_family family
    apply iff_of_false _ (not_contains_of_no_block family rfl)
    simp [test, Address.isMapped, four]
  | v6 =>
    have sixteen : address.octets.length = 16 := Address.length_octets_of_family family
    have header : address.octets.take 12 = Address.mappedHeader ↔
        natOfOctets (address.octets.take 12) = 0xffff := by
      apply (natOfOctets_inj _).symm
      rw [List.length_take, sixteen]
      rfl
    rw [contains_iff_take family rfl 12 0xffff rfl (by decide) (by decide)]
    simp only [test, Address.isMapped, sixteen, header, decide_true, Bool.true_and,
      decide_eq_true_eq, Nat.reduceMul, Nat.sub_self, Nat.pow_zero, Nat.div_one]

/-- The tests of the octets say exactly whether an address is in the block of a kind. -/
theorem test_iff (kind : AddressKind) : kind.test address = true ↔ kind.Contains address := by
  cases kind with
  | unspecified => exact test_unspecified_iff address
  | loopback => exact test_loopback_iff address
  | linkLocal => exact test_linkLocal_iff address
  | siteLocal => exact test_siteLocal_iff address
  | multicast => exact test_multicast_iff address
  | uniqueLocal => exact test_uniqueLocal_iff address
  | embedding => exact test_embedding_iff address

end AddressKind

/-! ### Blocks have no address in common -/

/-- The networks of two blocks have the leading bits in common that both blocks fix. -/
def Block.Overlaps (width : Nat) (block other : Block) : Prop :=
  block.network / 2 ^ (width - min block.length other.length) =
    other.network / 2 ^ (width - min block.length other.length)

instance (width : Nat) (block other : Block) : Decidable (block.Overlaps width other) :=
  inferInstanceAs (Decidable (_ = _))

/-- An address in a block is in every shorter block of its network. -/
theorem Address.IsIn.shorten {address : Address} {block : Block} (isIn : address.IsIn block)
    {length : Nat} (shorter : length ≤ block.length) : address.IsIn ⟨block.network, length⟩ := by
  have scale : 2 ^ (address.family.width - length) = 2 ^ (address.family.width - block.length) *
      2 ^ (address.family.width - length - (address.family.width - block.length)) := by
    rw [← Nat.pow_add]
    congr 1
    omega
  rw [IsIn, scale, ← Nat.div_div_eq_div_mul, ← Nat.div_div_eq_div_mul, isIn]

theorem Block.overlaps_of_isIn {address : Address} {block other : Block}
    (isIn : address.IsIn block) (isInOther : address.IsIn other) :
    block.Overlaps address.family.width other := by
  have first := isIn.shorten (Nat.min_le_left block.length other.length)
  have second := isInOther.shorten (Nat.min_le_right block.length other.length)
  exact first.symm.trans second

namespace AddressKind

/-- The networks of two kinds in a family differ in bits that both blocks fix. -/
theorem eq_of_overlaps {kind other : AddressKind} {family : Family} {block otherBlock : Block}
    (has : block ∈ kind.block? family) (otherHas : otherBlock ∈ other.block? family)
    (overlaps : block.Overlaps family.width otherBlock) : kind = other := by
  have table : ∀ kind ∈ all, ∀ other ∈ all, ∀ block ∈ kind.block? family,
      ∀ otherBlock ∈ other.block? family, block.Overlaps family.width otherBlock →
        kind = other := by
    cases family with
    | v4 => decide
    | v6 => decide
  exact table kind (mem_all kind) other (mem_all other) block has otherBlock otherHas overlaps

/-- An address is in the block of at most one kind. -/
theorem Contains.unique {kind other : AddressKind} {address : Address}
    (contains : kind.Contains address) (otherContains : other.Contains address) : kind = other := by
  obtain ⟨block, has, isIn⟩ := contains
  obtain ⟨otherBlock, otherHas, isInOther⟩ := otherContains
  exact eq_of_overlaps has otherHas (Block.overlaps_of_isIn isIn isInOther)

end AddressKind

end InterfaceAddress
