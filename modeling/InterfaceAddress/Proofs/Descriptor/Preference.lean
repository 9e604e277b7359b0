import InterfaceAddress.Proofs.Descriptor.Flags
import Mathlib

/-! # Preferred global addresses

The policy for preferred addresses is stated about what a descriptor stores: the
kind of the address, its scope and three flags, which do not change with time
(`Descriptor.Qualifies`), and whether the address is deprecated, which is a
question about the lifetimes if they are known and about a fourth flag if they
are not (`Descriptor.IsDeprecatedAt`). An address is preferred exactly if it
qualifies and is not deprecated (`Descriptor.isGlobalPreferred_iff`).
-/

namespace InterfaceAddress

/-! ### Unique local addresses -/

/-- Whether octets are in `fc00::/7`. -/
def AreUniqueLocal (octets : List UInt8) : Prop :=
  octets.length = 16 ∧ 0xfc ≤ (octets.headD 0).toNat ∧ (octets.headD 0).toNat < 0xfe

instance (octets : List UInt8) : Decidable (AreUniqueLocal octets) :=
  inferInstanceAs (Decidable (_ ∧ _))

theorem Address.isUniqueLocal_iff (address : Address) :
    address.isUniqueLocal = true ↔ AreUniqueLocal address.octets := by
  rw [isUniqueLocal, family, AreUniqueLocal, octet_zero]
  rcases address.length_octets with short | long
  · rw [if_pos short]
    exact iff_of_false Bool.false_ne_true (by omega)
  · have masked : address.octets.headD 0 &&& 0xfe = 0xfc ↔ _ :=
      Netmask.and_eq_iff (by decide : 7 ≤ 8) rfl
    rw [if_neg (by omega)]
    simp only [decide_eq_true_eq, masked, UInt8.reduceToNat, long, true_and]
    omega

theorem Scope.same_universal_iff (code : Binary64) :
    code.same universal.number = true ↔ code.toInt? = some 0 := by
  have zero : universal.number.toInt? = some 0 := Binary64.toInt?_ofNat (by decide : 0 < 2 ^ 53)
  constructor
  · intro same
    exact Binary64.toInt?_of_same same zero
  · intro isZero
    exact (Binary64.same_iff_of_toInt? isZero zero).mpr rfl

namespace Descriptor

/-! ### The policy -/

/-- What a preferred address needs at any time: its scope is universal, it is no unique local
address and no duplicate, and it is tentative only if it is optimistic as well. -/
structure Qualifies (descriptor : Descriptor) : Prop where
  universal : descriptor.scope.toInt? = some 0
  notUniqueLocal : ¬ AreUniqueLocal descriptor.address.octets
  notDuplicate : ¬ Flag.duplicateDetected.IsSetIn descriptor.storedFlags
  settled : ¬ Flag.tentative.IsSetIn descriptor.storedFlags ∨
    Flag.optimistic.IsSetIn descriptor.storedFlags

/-- Whether the address is deprecated at an instant: as is stored if the lifetimes are unknown, or
else if the instant is not before its deprecation. -/
def IsDeprecatedAt (descriptor : Descriptor) (now : Binary64) : Prop :=
  if descriptor.lifetimes = ⟨.unknown, .unknown⟩ then
    Flag.deprecated.IsSetIn descriptor.storedFlags
  else descriptor.lifetimes.deprecation.toNumber.le now = true

instance (descriptor : Descriptor) (now : Binary64) :
    Decidable (descriptor.IsDeprecatedAt now) := by
  unfold IsDeprecatedAt
  infer_instance

variable {descriptor : Descriptor}

theorem isDeprecatedAt_of_unknown (unknown : descriptor.lifetimes = ⟨.unknown, .unknown⟩)
    (now : Binary64) :
    descriptor.IsDeprecatedAt now ↔ Flag.deprecated.IsSetIn descriptor.storedFlags := by
  rw [IsDeprecatedAt, if_pos unknown]

theorem isDeprecatedAt_of_known (known : descriptor.lifetimes ≠ ⟨.unknown, .unknown⟩)
    (now : Binary64) :
    descriptor.IsDeprecatedAt now ↔ descriptor.lifetimes.deprecation.toNumber.le now = true := by
  rw [IsDeprecatedAt, if_neg known]

/-! ### The flags of a descriptor -/

theorem flagsAt_of_unknown (unknown : descriptor.lifetimes = ⟨.unknown, .unknown⟩)
    (now : Binary64) : descriptor.flagsAt now = descriptor.storedFlags := by
  rw [flagsAt, unknown, Lifetimes.effectiveFlags_unknown]

theorem derives_flagsAt (consistent : descriptor.lifetimes.Consistent)
    (known : descriptor.lifetimes ≠ ⟨.unknown, .unknown⟩) (now : Binary64) :
    descriptor.lifetimes.lease.Derives descriptor.storedFlags now (descriptor.flagsAt now) := by
  obtain ⟨deprecates, expires, -⟩ := consistent.unknown_or_known.resolve_left known
  exact Lifetimes.derives deprecates expires descriptor.storedFlags now

theorem deprecated_isSetIn_flagsAt (consistent : descriptor.lifetimes.Consistent)
    (now : Binary64) :
    Flag.deprecated.IsSetIn (descriptor.flagsAt now) ↔ descriptor.IsDeprecatedAt now := by
  by_cases unknown : descriptor.lifetimes = ⟨.unknown, .unknown⟩
  · rw [flagsAt_of_unknown unknown, isDeprecatedAt_of_unknown unknown]
  · rw [isDeprecatedAt_of_known unknown]
    exact (derives_flagsAt consistent unknown now).deprecated

/-- Flags that no lifetime decides are those that are stored. -/
theorem isSetIn_flagsAt (consistent : descriptor.lifetimes.Consistent) (now : Binary64)
    (flag : Flag) (notDeprecated : flag ≠ .deprecated) (notPermanent : flag ≠ .permanent) :
    flag.IsSetIn (descriptor.flagsAt now) ↔ flag.IsSetIn descriptor.storedFlags := by
  by_cases unknown : descriptor.lifetimes = ⟨.unknown, .unknown⟩
  · rw [flagsAt_of_unknown unknown]
  · have kept := (derives_flagsAt consistent unknown now).kept flag.bit
      (Flag.bit_injective.ne notDeprecated) (Flag.bit_injective.ne notPermanent)
    rw [Flag.IsSetIn, kept, Flag.IsSetIn]

/-! ### What is preferred -/

theorem isGlobalPreferred_iff_of_consistent (consistent : descriptor.lifetimes.Consistent)
    (now : Binary64) :
    descriptor.isGlobalPreferred now = true ↔
      descriptor.Qualifies ∧ ¬ descriptor.IsDeprecatedAt now := by
  have duplicate := isSetIn_flagsAt consistent now .duplicateDetected nofun nofun
  have tentative := isSetIn_flagsAt consistent now .tentative nofun nofun
  have optimistic := isSetIn_flagsAt consistent now .optimistic nofun nofun
  simp only [isGlobalPreferred, Bool.and_eq_true, Bool.or_eq_true, Bool.not_eq_true',
    ← Bool.not_eq_true, Flag.isIn_toBits32, duplicate, tentative, optimistic,
    deprecated_isSetIn_flagsAt consistent now, Address.isUniqueLocal_iff,
    Scope.same_universal_iff]
  constructor
  · rintro ⟨⟨⟨⟨universal, notUniqueLocal⟩, notDuplicate⟩, current⟩, settled⟩
    exact ⟨⟨universal, notUniqueLocal, notDuplicate, settled⟩, current⟩
  · rintro ⟨⟨universal, notUniqueLocal, notDuplicate, settled⟩, current⟩
    exact ⟨⟨⟨⟨universal, notUniqueLocal⟩, notDuplicate⟩, current⟩, settled⟩

/-- The flag for deprecated addresses does not count for what an address needs at any time. -/
theorem Qualifies.withFlags (qualifies : descriptor.Qualifies) {flags : Binary64}
    (same : ∀ flag : Flag, flag ≠ .deprecated →
      (flag.IsSetIn flags ↔ flag.IsSetIn descriptor.storedFlags)) :
    { descriptor with storedFlags := flags }.Qualifies where
  universal := qualifies.universal
  notUniqueLocal := qualifies.notUniqueLocal
  notDuplicate := mt (same .duplicateDetected nofun).mp qualifies.notDuplicate
  settled := qualifies.settled.imp (mt (same .tentative nofun).mp) (same .optimistic nofun).mpr

/-- Only flags with a name count, and that of deprecated addresses only if the lifetimes are
unknown. -/
theorem isGlobalPreferred_congr (consistent : descriptor.lifetimes.Consistent) {flags : Binary64}
    (same : ∀ flag : Flag, flag ≠ .deprecated ∨ descriptor.lifetimes = ⟨.unknown, .unknown⟩ →
      (flag.IsSetIn flags ↔ flag.IsSetIn descriptor.storedFlags)) (now : Binary64) :
    { descriptor with storedFlags := flags }.isGlobalPreferred now =
      descriptor.isGlobalPreferred now := by
  let other : Descriptor := { descriptor with storedFlags := flags }
  have otherConsistent : other.lifetimes.Consistent := consistent
  have lasting (flag : Flag) (notDeprecated : flag ≠ .deprecated) := same flag (.inl notDeprecated)
  have qualifies : other.Qualifies ↔ descriptor.Qualifies := by
    constructor
    · -- going back to the stored flags is a change of flags as well
      intro otherQualifies
      exact otherQualifies.withFlags fun flag notDeprecated => (lasting flag notDeprecated).symm
    · intro qualifies
      exact qualifies.withFlags lasting
  have deprecated : other.IsDeprecatedAt now ↔ descriptor.IsDeprecatedAt now := by
    by_cases unknown : descriptor.lifetimes = ⟨.unknown, .unknown⟩
    · have otherUnknown : other.lifetimes = ⟨.unknown, .unknown⟩ := unknown
      rw [isDeprecatedAt_of_unknown unknown, isDeprecatedAt_of_unknown otherUnknown]
      exact same .deprecated (.inr unknown)
    · have otherKnown : other.lifetimes ≠ ⟨.unknown, .unknown⟩ := unknown
      rw [isDeprecatedAt_of_known unknown, isDeprecatedAt_of_known otherKnown]
  rw [Bool.eq_iff_iff, isGlobalPreferred_iff_of_consistent consistent,
    isGlobalPreferred_iff_of_consistent otherConsistent, qualifies, deprecated]

/-- **An address is preferred exactly if the policy says so of what is stored.** The stored flags
count only as a word of 32 bits, and if the lifetimes are known, their bit for deprecated addresses
does not count at all. -/
theorem isGlobalPreferred_iff (obtained : descriptor.Obtained) (now : Binary64) :
    (descriptor.isGlobalPreferred now = true ↔
      descriptor.Qualifies ∧ ¬ descriptor.IsDeprecatedAt now) ∧
    (∀ flags : Binary64, flags.unsigned = descriptor.storedFlags.unsigned →
      { descriptor with storedFlags := flags }.isGlobalPreferred now =
        descriptor.isGlobalPreferred now) ∧
    (descriptor.lifetimes ≠ ⟨.unknown, .unknown⟩ → ∀ flags : Binary64,
      (∀ position, position ≠ Flag.deprecated.bit →
        flags.unsigned.testBit position = descriptor.storedFlags.unsigned.testBit position) →
      { descriptor with storedFlags := flags }.isGlobalPreferred now =
        descriptor.isGlobalPreferred now) := by
  have consistent := obtained.wellFormed.consistent
  refine ⟨isGlobalPreferred_iff_of_consistent consistent now, ?_, ?_⟩
  · intro flags same
    apply isGlobalPreferred_congr consistent
    intro flag _
    rw [Flag.IsSetIn, same, Flag.IsSetIn]
  · intro known flags same
    apply isGlobalPreferred_congr consistent
    rintro flag (notDeprecated | unknown)
    · rw [Flag.IsSetIn, same flag.bit (Flag.bit_injective.ne notDeprecated), Flag.IsSetIn]
    · exact absurd unknown known

/-- A lease is preferred until its deprecation, though it is stored as deprecated. -/
theorem isGlobalPreferred_iff_leased :
    leased.Obtained ∧ (leased.Qualifies ∧ ¬ leased.IsDeprecatedAt 999) ∧
      ¬ (leased.Qualifies ∧ ¬ leased.IsDeprecatedAt 1000) ∧
      (Binary64.ofNat 0x64).unsigned = leased.storedFlags.unsigned ∧
      { leased with storedFlags := .ofNat 0x64 }.isGlobalPreferred 999 =
        leased.isGlobalPreferred 999 ∧
      { leased with storedFlags := .ofNat 0x44 }.isGlobalPreferred 999 =
        leased.isGlobalPreferred 999 := by
  have preferred : leased.isGlobalPreferred 999 = true := by
    decide +kernel
  have notPreferred : ¬ leased.isGlobalPreferred 1000 = true := by
    decide +kernel
  have known : leased.lifetimes ≠ ⟨.unknown, .unknown⟩ := by
    decide +kernel
  have stored : leased.storedFlags.unsigned = 0x44 ||| 2 ^ Flag.deprecated.bit := by
    decide +kernel
  have sameWord : (Binary64.ofNat 0x64).unsigned = leased.storedFlags.unsigned := by
    rw [stored, Binary64.unsigned_ofNat (by decide)]
    rfl
  have sameBits : ∀ position, position ≠ Flag.deprecated.bit →
      (Binary64.ofNat 0x44).unsigned.testBit position =
        leased.storedFlags.unsigned.testBit position := by
    intro position elsewhere
    rw [stored, Binary64.unsigned_ofNat (by decide), Nat.testBit_or,
      Nat.testBit_two_pow_of_ne elsewhere.symm, Bool.or_false]
  have before := isGlobalPreferred_iff leased_obtained 999
  have after := isGlobalPreferred_iff leased_obtained 1000
  exact ⟨leased_obtained, before.1.mp preferred, mt after.1.mpr notPreferred, sameWord,
    before.2.1 _ sameWord, before.2.2 known _ sameBits⟩

end Descriptor

end InterfaceAddress
