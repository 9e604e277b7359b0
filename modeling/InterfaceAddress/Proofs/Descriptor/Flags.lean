import InterfaceAddress.Proofs.Descriptor.Invariant
import InterfaceAddress.Proofs.Descriptor.Rules
import InterfaceAddress.Proofs.Number.Word
import Mathlib

/-! # Flags at an instant

Unknown lifetimes leave the stored flags as they are. Known lifetimes make a
word of 32 bits of them, in which two bits say what the lifetimes say at that
instant and every other bit is the stored one (`Lease.Derives`,
`Lease.effectiveFlags_bits`). These conditions fix the word, so nothing that an
earlier derivation put into the stored flags is left in it
(`Lease.effectiveFlags_renewed`).
-/

namespace InterfaceAddress

/-! ### Bits of flags -/

namespace Flag

/-- Whether the bit of a flag is set in the word that a number stands for. -/
def IsSetIn (flag : Flag) (flags : Binary64) : Prop := flags.unsigned.testBit flag.bit = true

instance (flag : Flag) (flags : Binary64) : Decidable (flag.IsSetIn flags) :=
  inferInstanceAs (Decidable (_ = _))

theorem bit_lt (flag : Flag) : flag.bit < 32 := by
  cases flag <;> decide

theorem bit_injective : Function.Injective bit := by
  intro flag other same
  cases flag <;> cases other <;> first | rfl | cases same

theorem isIn_toBits32 (flag : Flag) (flags : Binary64) :
    flag.isIn flags.toBits32 = true ↔ flag.IsSetIn flags := by
  rw [isIn, Binary64.getLsbD_toBits32, IsSetIn]

/-- Putting a flag into a word changes one bit. -/
theorem getLsbD_put (flag : Flag) (word : BitVec 32) (present : Bool) (position : Nat) :
    (flag.put word present).getLsbD position =
      if position = flag.bit then present else word.getLsbD position := by
  have inside := flag.bit_lt
  rw [put, mask]
  cases present with
  | true =>
    rw [if_pos rfl, BitVec.getLsbD_or, BitVec.getLsbD_twoPow]
    by_cases here : position = flag.bit
    · simp [here, inside]
    · simp [here, Ne.symm here]
  | false =>
    rw [if_neg Bool.false_ne_true, BitVec.getLsbD_and, BitVec.getLsbD_not, BitVec.getLsbD_twoPow]
    -- clearing a bit also clears what is past the end of the word, where nothing is set
    cases set : word.getLsbD position with
    | false => simp
    | true =>
      have within := BitVec.lt_of_getLsbD set
      by_cases here : position = flag.bit
      · simp [here, inside]
      · simp [here, Ne.symm here, within]

end Flag

/-! ### Known lifetimes -/

namespace Lifetime.IsKnown

variable {lifetime : Lifetime}

theorem isUnknown_eq (known : lifetime.IsKnown) : lifetime.isUnknown = false := by
  cases known with
  | permanent => rfl
  | instant => rfl

theorem isInstant_eq (known : lifetime.IsKnown) :
    lifetime.isInstant = !lifetime.isPermanent := by
  cases known with
  | permanent => rfl
  | instant => rfl

theorem isPermanent_iff (known : lifetime.IsKnown) :
    lifetime.isPermanent = true ↔ lifetime.toNumber = .infinity false := by
  cases known with
  | permanent => exact iff_of_true rfl rfl
  | instant isInteger =>
    refine iff_of_false Bool.false_ne_true ?_
    rintro rfl
    cases isInteger

theorem reached_eq (known : lifetime.IsKnown) (now : Binary64) :
    lifetime.reached now = lifetime.toNumber.le now := by
  cases known with
  | permanent => rfl
  | instant => rfl

end Lifetime.IsKnown

namespace Lifetimes

variable {lifetimes : Lifetimes}

theorem effectiveFlags_unknown (stored now : Binary64) :
    (⟨.unknown, .unknown⟩ : Lifetimes).effectiveFlags stored now = stored := rfl

theorem effectiveFlags_known (deprecates : lifetimes.deprecation.IsKnown)
    (stored now : Binary64) :
    lifetimes.effectiveFlags stored now =
      .ofNat (lifetimes.deriveFlags now stored.toBits32).toNat := by
  rw [effectiveFlags, deprecates.isUnknown_eq, Bool.false_and, if_neg Bool.false_ne_true]

section Known

variable (deprecates : lifetimes.deprecation.IsKnown) (expires : lifetimes.expiration.IsKnown)
include deprecates expires

/-- Known lifetimes put two flags. -/
theorem deriveFlags_eq (now : Binary64) (stored : BitVec 32) :
    lifetimes.deriveFlags now stored =
      Flag.permanent.put (Flag.deprecated.put stored (lifetimes.deprecation.toNumber.le now))
        (lifetimes.deprecation.isPermanent && lifetimes.expiration.isPermanent) := by
  obtain ⟨deprecation, expiration⟩ := lifetimes
  dsimp only at deprecates expires
  simp only [deriveFlags, deprecates.isUnknown_eq, deprecates.reached_eq, deprecates.isInstant_eq,
    expires.isInstant_eq, Bool.false_eq_true, ↓reduceIte]
  cases deprecation.isPermanent <;> cases expiration.isPermanent <;> rfl

theorem getLsbD_deriveFlags (now : Binary64) (stored : BitVec 32) (position : Nat) :
    (lifetimes.deriveFlags now stored).getLsbD position =
      if position = Flag.permanent.bit then
        lifetimes.deprecation.isPermanent && lifetimes.expiration.isPermanent
      else if position = Flag.deprecated.bit then lifetimes.deprecation.toNumber.le now
      else stored.getLsbD position := by
  rw [deriveFlags_eq deprecates expires, Flag.getLsbD_put, Flag.getLsbD_put]

end Known

end Lifetimes

/-! ### What known lifetimes make of stored flags -/

/-- The numbers of two lifetimes, as a lease gives them. -/
structure Lease where
  deprecates : Binary64
  expires : Binary64

namespace Lease

/-- The lifetimes that the numbers of a lease stand for. -/
def lifetimes (lease : Lease) : Lifetimes := ⟨.ofNumber lease.deprecates, .ofNumber lease.expires⟩

/-- The lifetimes of a lease break no rule. -/
def IsAccepted (lease : Lease) : Prop := lease.lifetimes.violation? = none

/-- Neither lifetime is known. -/
def IsUnknown (lease : Lease) : Prop :=
  lease.deprecates.toInt? = some (-1) ∧ lease.expires.toInt? = some (-1)

instance (lease : Lease) : Decidable lease.IsAccepted := inferInstanceAs (Decidable (_ = none))

instance (lease : Lease) : Decidable lease.IsUnknown := inferInstanceAs (Decidable (_ ∧ _))

/-- What the flags are at an instant if the lifetimes of a lease are known: a word of 32 bits that
says whether the address is deprecated and whether it is permanent, and says of everything else
what was stored. -/
structure Derives (lease : Lease) (stored now flags : Binary64) : Prop where
  isWord : ∃ word : Nat, word < 2 ^ 32 ∧ flags.toInt? = some (word : Int) ∧ flags = .ofNat word
  deprecated : Flag.deprecated.IsSetIn flags ↔ lease.deprecates.le now = true
  permanent : Flag.permanent.IsSetIn flags ↔
    lease.deprecates = .infinity false ∧ lease.expires = .infinity false
  kept : ∀ position, position ≠ Flag.deprecated.bit → position ≠ Flag.permanent.bit →
    flags.unsigned.testBit position = stored.unsigned.testBit position

end Lease

/-- The numbers of two lifetimes. -/
def Lifetimes.lease (lifetimes : Lifetimes) : Lease :=
  ⟨lifetimes.deprecation.toNumber, lifetimes.expiration.toNumber⟩

theorem Lifetimes.derives {lifetimes : Lifetimes} (deprecates : lifetimes.deprecation.IsKnown)
    (expires : lifetimes.expiration.IsKnown) (stored now : Binary64) :
    lifetimes.lease.Derives stored now (lifetimes.effectiveFlags stored now) := by
  have small := (lifetimes.deriveFlags now stored.toBits32).isLt
  have bits (position : Nat) :
      (lifetimes.effectiveFlags stored now).unsigned.testBit position =
        (lifetimes.deriveFlags now stored.toBits32).getLsbD position := by
    rw [effectiveFlags_known deprecates, Binary64.unsigned_ofNat small]
    rfl
  simp only [getLsbD_deriveFlags deprecates expires, Binary64.getLsbD_toBits32] at bits
  have distinct : Flag.deprecated.bit ≠ Flag.permanent.bit := by decide
  refine ⟨?_, ?_, ?_, ?_⟩
  · rw [effectiveFlags_known deprecates]
    exact ⟨_, small, Binary64.toInt?_ofNat (Nat.lt_trans small (by decide)), rfl⟩
  · rw [Flag.IsSetIn, bits, if_neg distinct, if_pos rfl]
    rfl
  · rw [Flag.IsSetIn, bits, if_pos rfl, Bool.and_eq_true, deprecates.isPermanent_iff,
      expires.isPermanent_iff]
    rfl
  · intro position notDeprecated notPermanent
    rw [bits, if_neg notPermanent, if_neg notDeprecated]

namespace Lease

variable {lease : Lease} {stored now flags : Binary64}

theorem lease_lifetimes (lease : Lease) : lease.lifetimes.lease = lease := by
  simp only [Lifetimes.lease, lifetimes, Lifetime.toNumber_ofNumber]

/-- The instant counts for one bit only. -/
theorem Derives.testBit_eq {later other : Binary64} (derives : lease.Derives stored now flags)
    (also : lease.Derives stored later other) {position : Nat}
    (elsewhere : position ≠ Flag.deprecated.bit) :
    flags.unsigned.testBit position = other.unsigned.testBit position := by
  by_cases isPermanent : position = Flag.permanent.bit
  · rw [isPermanent, Bool.eq_iff_iff]
    exact derives.permanent.trans also.permanent.symm
  · rw [derives.kept position elsewhere isPermanent, also.kept position elsewhere isPermanent]

/-- One number meets the conditions. -/
theorem Derives.unique {other : Binary64} (derives : lease.Derives stored now flags)
    (also : lease.Derives stored now other) : flags = other := by
  have sameBits : flags.unsigned = other.unsigned := by
    apply Nat.eq_of_testBit_eq
    intro position
    by_cases isDeprecated : position = Flag.deprecated.bit
    · rw [isDeprecated, Bool.eq_iff_iff]
      exact derives.deprecated.trans also.deprecated.symm
    · exact derives.testBit_eq also isDeprecated
  obtain ⟨word, small, -, rfl⟩ := derives.isWord
  obtain ⟨otherWord, otherSmall, -, rfl⟩ := also.isWord
  rw [Binary64.unsigned_ofNat small, Binary64.unsigned_ofNat otherSmall] at sameBits
  rw [sameBits]

/-- The stored flags count only for the bits that no lifetime decides. -/
theorem Derives.of_kept {earlier : Binary64} (derives : lease.Derives earlier now flags)
    (same : ∀ position, position ≠ Flag.deprecated.bit → position ≠ Flag.permanent.bit →
      earlier.unsigned.testBit position = stored.unsigned.testBit position) :
    lease.Derives stored now flags where
  isWord := derives.isWord
  deprecated := derives.deprecated
  permanent := derives.permanent
  kept position notDeprecated notPermanent :=
    (derives.kept position notDeprecated notPermanent).trans
      (same position notDeprecated notPermanent)

theorem isUnknown_iff (lease : Lease) : lease.IsUnknown ↔
    lease.lifetimes.deprecation.isUnknown = true ∧ lease.lifetimes.expiration.isUnknown = true :=
  and_congr Lifetime.isUnknown_ofNumber.symm Lifetime.isUnknown_ofNumber.symm

/-- The lifetimes of an accepted lease are both unknown or both known. -/
theorem IsAccepted.unknown_or_known (accepted : lease.IsAccepted) :
    lease.IsUnknown ∧ lease.lifetimes = ⟨.unknown, .unknown⟩ ∨
      ¬ lease.IsUnknown ∧ lease.lifetimes.deprecation.IsKnown ∧
        lease.lifetimes.expiration.IsKnown := by
  rw [isUnknown_iff]
  rcases (Lifetimes.violation?_eq_none_iff.mp accepted).unknown_or_known with
    unknown | ⟨deprecates, expires, -⟩
  · rw [unknown]
    exact .inl ⟨⟨rfl, rfl⟩, rfl⟩
  · rw [deprecates.isUnknown_eq]
    exact .inr ⟨fun both => Bool.false_ne_true both.1, deprecates, expires⟩

/-- **The flags of a lease, bit by bit.** Unknown lifetimes leave the stored number as it is.
Known ones make a word of 32 bits of it. Its bit for deprecated addresses is not set where the
reading is not a number, and a deprecation without end sets it at no finite reading. -/
theorem effectiveFlags_bits (accepted : lease.IsAccepted) (stored now : Binary64) :
    (lease.IsUnknown → lease.lifetimes.effectiveFlags stored now = stored) ∧
    (¬ lease.IsUnknown →
      lease.Derives stored now (lease.lifetimes.effectiveFlags stored now) ∧
      (Flag.deprecated.IsSetIn (lease.lifetimes.effectiveFlags stored now) →
        now ≠ .nan ∧ (lease.deprecates = .infinity false → now = .infinity false))) := by
  rcases accepted.unknown_or_known with ⟨isUnknown, unknown⟩ | ⟨isKnown, deprecates, expires⟩
  · refine ⟨fun _ => ?_, absurd isUnknown⟩
    rw [unknown, Lifetimes.effectiveFlags_unknown]
  · refine ⟨fun isUnknown => absurd isUnknown isKnown, fun _ => ?_⟩
    have derives := Lifetimes.derives deprecates expires stored now
    rw [lease_lifetimes] at derives
    refine ⟨derives, fun isSet => ?_⟩
    have reached := derives.deprecated.mp isSet
    constructor
    · rintro rfl
      rw [Binary64.le_nan] at reached
      cases reached
    · intro permanent
      rw [permanent] at reached
      exact Binary64.infinity_le_iff.mp reached

/-- Before its deprecation an address that was stored with all bits has all but two. -/
theorem effectiveFlags_bits_allOnes :
    let lease : Lease := ⟨1000, .infinity false⟩
    lease.IsAccepted ∧ ¬ lease.IsUnknown ∧
      lease.lifetimes.effectiveFlags (-1) 999 = .ofNat 0xffffff5f ∧
      lease.Derives (-1) 999 (.ofNat 0xffffff5f) := by
  intro lease
  have accepted : lease.IsAccepted := by
    decide +kernel
  have isKnown : ¬ lease.IsUnknown := by
    decide +kernel
  have word : lease.lifetimes.effectiveFlags (-1) 999 = .ofNat 0xffffff5f := by
    decide +kernel
  have derives := ((effectiveFlags_bits accepted (-1) 999).2 isKnown).1
  rw [word] at derives
  exact ⟨accepted, isKnown, word, derives⟩

end Lease

/-! ### Renewed leases -/

/-- Known lifetimes leave nothing of an earlier derivation. -/
theorem Lifetimes.effectiveFlags_effectiveFlags {first second : Lifetimes}
    (consistent : first.Consistent) (deprecates : second.deprecation.IsKnown)
    (expires : second.expiration.IsKnown) (stored earlier now : Binary64) :
    second.effectiveFlags (first.effectiveFlags stored earlier) now =
      second.effectiveFlags stored now := by
  rcases consistent.unknown_or_known with rfl | ⟨firstDeprecates, firstExpires, -⟩
  · rw [effectiveFlags_unknown]
  · -- the earlier derivation kept every bit that the later one keeps
    have again := derives deprecates expires (first.effectiveFlags stored earlier) now
    have kept := (derives firstDeprecates firstExpires stored earlier).kept
    exact (again.of_kept kept).unique (derives deprecates expires stored now)

/-- The proposal to build a descriptor again with other flags and the lifetimes of a lease. -/
def Descriptor.renewal (descriptor : Descriptor) (flags : Binary64) (lease : Lease) : Proposal where
  source := .address descriptor.address
  prefixLength := some descriptor.prefixLength
  flags := some flags
  scope := some descriptor.scope
  deprecation := some lease.deprecates
  expiration := some lease.expires

/-- A descriptor with an accepted lease is built again. -/
theorem Descriptor.tryCreate_renewal {descriptor : Descriptor} {lease : Lease}
    (wellFormed : descriptor.WellFormed) (accepted : lease.IsAccepted) (flags : Binary64)
    (choice : Option Bool) (session : Session) :
    ((descriptor.renewal flags lease).draft.tryCreate choice session).result =
      .ok (.ok { descriptor with storedFlags := flags, lifetimes := lease.lifetimes }) := by
  have settled : ¬ (descriptor.renewal flags lease).draft.LeavesOpen choice := by
    rintro ⟨⟨text, given⟩, -⟩
    cases given
  have chosen := Draft.collapsing_run_of_not_leavesOpen settled session
  have built : (descriptor.renewal flags lease).draft.build (choice.getD false) =
      .ok { descriptor with storedFlags := flags, lifetimes := lease.lifetimes } :=
    Draft.build_eq_ok_iff.mpr ⟨descriptor.address, descriptor.prefixLength, rfl, rfl,
      wellFormed.prefixFits, wellFormed.unicast, Lifetimes.violation?_eq_none_iff.mp accepted, rfl⟩
  rw [Draft.tryCreate_run_of_ok chosen built]

namespace Lease

variable {lease : Lease}

/-- **A lease forgets the one before it.** Flags that are derived from derived flags are those that
are derived from the stored ones, for any accepted lifetimes before and known ones after, and for
the same lifetimes twice. So a descriptor that is built again with a known lease has the same
flags, whether its effective or its stored flags were handed on. -/
theorem effectiveFlags_renewed (accepted : lease.IsAccepted) (earlier now : Binary64) :
    (∀ (first : Lease) (stored : Binary64), first.IsAccepted →
      ¬ lease.IsUnknown ∨ first = lease →
      lease.lifetimes.effectiveFlags (first.lifetimes.effectiveFlags stored earlier) now =
        lease.lifetimes.effectiveFlags stored now) ∧
    (¬ lease.IsUnknown → ∀ descriptor : Descriptor, descriptor.Obtained →
      ∀ (choice : Option Bool) (session : Session), ∃ refreshed restored : Descriptor,
        ((descriptor.renewal (descriptor.flagsAt earlier) lease).draft.tryCreate choice
          session).result = .ok (.ok refreshed) ∧
        ((descriptor.renewal descriptor.storedFlags lease).draft.tryCreate choice
          session).result = .ok (.ok restored) ∧
        refreshed.flagsAt now = restored.flagsAt now) := by
  rcases accepted.unknown_or_known with ⟨isUnknown, unknown⟩ | ⟨isKnown, deprecates, expires⟩
  · refine ⟨?_, absurd isUnknown⟩
    rintro first stored - (isKnown | rfl)
    · exact absurd isUnknown isKnown
    · simp only [unknown, Lifetimes.effectiveFlags_unknown]
  · constructor
    · intro first stored firstAccepted _
      exact Lifetimes.effectiveFlags_effectiveFlags
        (Lifetimes.violation?_eq_none_iff.mp firstAccepted) deprecates expires stored earlier now
    · intro _ descriptor obtained choice session
      have wellFormed := obtained.wellFormed
      exact ⟨_, _, Descriptor.tryCreate_renewal wellFormed accepted _ choice session,
        Descriptor.tryCreate_renewal wellFormed accepted _ choice session,
        Lifetimes.effectiveFlags_effectiveFlags wellFormed.consistent deprecates expires
          descriptor.storedFlags earlier now⟩

end Lease

/-- An address with a lease that is deprecated after a second. Its flags have more than 32 bits,
among them those of a deprecated address, and its scope is the negative zero. -/
def Descriptor.leased : Descriptor where
  address := ⟨[0x20, 0x01, 0x0d, 0xb8, 0, 0, 0, 0, 0, 0, 0, 0, 0, 0, 0, 1], .inr rfl⟩
  prefixLength := 64
  storedFlags := .ofNat (2 ^ 32 + 0x64)
  scope := -0
  lifetimes := ⟨.instant 1000, .permanent⟩

theorem Descriptor.leased_obtained : leased.Obtained := by
  have created : (Draft.tryCreate ⟨.text "2001:db8::1", some 64, ⟨some (.ofNat (2 ^ 32 + 0x64)),
      some (-0), some (.instant 1000), some .permanent⟩⟩ none .initial).result =
        .ok (.ok leased) := by
    decide +kernel
  exact .tryCreate created

/-- A lease forgets a permanent one that had been reached. -/
theorem Lease.effectiveFlags_renewed_permanent :
    let permanent : Lease := ⟨.infinity false, .infinity false⟩
    let lease : Lease := ⟨2000, 3000⟩
    lease.IsAccepted ∧ permanent.IsAccepted ∧ ¬ lease.IsUnknown ∧
      lease.lifetimes.effectiveFlags
          (permanent.lifetimes.effectiveFlags (-1) (.infinity false)) 1000 =
        lease.lifetimes.effectiveFlags (-1) 1000 ∧
      Descriptor.leased.Obtained ∧ ∃ refreshed restored : Descriptor,
        ((Descriptor.leased.renewal (Descriptor.leased.flagsAt (.infinity false))
          lease).draft.tryCreate none .initial).result = .ok (.ok refreshed) ∧
        ((Descriptor.leased.renewal Descriptor.leased.storedFlags
          lease).draft.tryCreate none .initial).result = .ok (.ok restored) ∧
        refreshed.flagsAt 1000 = restored.flagsAt 1000 := by
  intro permanent lease
  have accepted : lease.IsAccepted := by
    decide +kernel
  have permanentAccepted : permanent.IsAccepted := by
    decide +kernel
  have isKnown : ¬ lease.IsUnknown := by
    decide +kernel
  have renewed := Lease.effectiveFlags_renewed accepted (.infinity false) 1000
  exact ⟨accepted, permanentAccepted, isKnown,
    renewed.1 permanent (-1) permanentAccepted (.inl isKnown), Descriptor.leased_obtained,
    renewed.2 isKnown Descriptor.leased Descriptor.leased_obtained none .initial⟩

end InterfaceAddress
