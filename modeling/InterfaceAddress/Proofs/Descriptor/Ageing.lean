import InterfaceAddress.Proofs.Descriptor.Preference
import Mathlib

/-! # Ageing

Between two readings of a clock that does not go back only one flag of a
descriptor can change, and it can only be set (`Descriptor.IsDeprecatedAt.mono`,
`Descriptor.testBit_flagsAt`). So an address that is not preferred any more does
not become preferred again: along a run of readings the answers are a block of
true ones before a block of false ones, and where the lifetimes are known the
second block starts with the first reading that is not before the deprecation
(`Descriptor.ageing_monotone`).
-/

namespace InterfaceAddress

/-- The readings of a clock that does not go back. -/
def AreNonDecreasing (readings : List Binary64) : Prop :=
  readings.IsChain fun earlier later => earlier.le later = true

instance (readings : List Binary64) : Decidable (AreNonDecreasing readings) := by
  unfold AreNonDecreasing
  infer_instance

/-- Along readings in order, answers that never turn from false to true are a block of true ones
before a block of false ones. -/
theorem AreNonDecreasing.map_eq_blocks {answer : Binary64 → Bool}
    (fades : ∀ {earlier later : Binary64}, earlier.le later = true →
      answer later = true → answer earlier = true)
    {readings : List Binary64} (ordered : AreNonDecreasing readings) :
    readings.map answer =
      List.replicate (readings.findIdx fun reading => !answer reading) true ++
        List.replicate (readings.length - readings.findIdx fun reading => !answer reading)
          false := by
  induction readings with
  | nil => rfl
  | cons first rest ih =>
    have tail := ih (List.IsChain.tail ordered)
    cases holds : answer first with
    | true =>
      rw [List.map_cons, tail, holds, List.findIdx_cons, holds]
      simp [List.replicate_succ]
    | false =>
      cases rest with
      | nil => simp [List.findIdx_cons, holds]
      | cons second others =>
        -- the next answer is false as well, so that the rest has no true ones
        have step : first.le second = true := (List.isChain_cons_cons.mp ordered).1
        have secondFails : answer second = false := by
          rw [← Bool.not_eq_true]
          intro secondHolds
          rw [fades step secondHolds] at holds
          cases holds
        rw [List.map_cons, tail]
        simp [List.findIdx_cons, holds, secondFails, List.replicate_succ]

namespace Descriptor

variable {descriptor : Descriptor} {earlier later : Binary64}

/-! ### One step -/

/-- What is deprecated stays deprecated. -/
theorem IsDeprecatedAt.mono (deprecated : descriptor.IsDeprecatedAt earlier)
    (ordered : earlier.le later = true) : descriptor.IsDeprecatedAt later := by
  by_cases unknown : descriptor.lifetimes = ⟨.unknown, .unknown⟩
  · rw [isDeprecatedAt_of_unknown unknown] at deprecated ⊢
    exact deprecated
  · rw [isDeprecatedAt_of_known unknown] at deprecated ⊢
    exact Binary64.le_trans deprecated ordered

/-- Every bit but one is the same at all instants. -/
theorem testBit_flagsAt (consistent : descriptor.lifetimes.Consistent) (earlier later : Binary64)
    {position : Nat} (elsewhere : position ≠ Flag.deprecated.bit) :
    (descriptor.flagsAt earlier).unsigned.testBit position =
      (descriptor.flagsAt later).unsigned.testBit position := by
  by_cases unknown : descriptor.lifetimes = ⟨.unknown, .unknown⟩
  · rw [flagsAt_of_unknown unknown, flagsAt_of_unknown unknown]
  · have derives := derives_flagsAt consistent unknown earlier
    exact derives.testBit_eq (derives_flagsAt consistent unknown later) elsewhere

theorem isGlobalPreferred_earlier (consistent : descriptor.lifetimes.Consistent)
    (ordered : earlier.le later = true) (preferred : descriptor.isGlobalPreferred later = true) :
    descriptor.isGlobalPreferred earlier = true := by
  rw [isGlobalPreferred_iff_of_consistent consistent] at preferred ⊢
  exact ⟨preferred.1, fun deprecated => preferred.2 (IsDeprecatedAt.mono deprecated ordered)⟩

/-! ### A run of readings -/

/-- Where the lifetimes are known, an address that qualifies is preferred until its deprecation. -/
theorem not_isGlobalPreferred_of_known (consistent : descriptor.lifetimes.Consistent)
    (known : descriptor.lifetimes ≠ ⟨.unknown, .unknown⟩) (qualifies : descriptor.Qualifies)
    (now : Binary64) :
    (!descriptor.isGlobalPreferred now) = descriptor.lifetimes.deprecation.toNumber.le now := by
  rw [Bool.eq_iff_iff, Bool.not_eq_true', ← Bool.not_eq_true,
    isGlobalPreferred_iff_of_consistent consistent, isDeprecatedAt_of_known known]
  simp [qualifies]

/-- How many of the readings find the address preferred, if they are in order. -/
def preferredCount (descriptor : Descriptor) (readings : List Binary64) : Nat :=
  readings.findIdx fun reading => !descriptor.isGlobalPreferred reading

theorem preferredCount_of_not_qualifies (consistent : descriptor.lifetimes.Consistent)
    (disqualified : ¬ descriptor.Qualifies) (readings : List Binary64) :
    descriptor.preferredCount readings = 0 := by
  cases readings with
  | nil => rfl
  | cons first rest =>
    have refused : descriptor.isGlobalPreferred first = false := by
      rw [← Bool.not_eq_true, isGlobalPreferred_iff_of_consistent consistent]
      exact fun preferred => disqualified preferred.1
    rw [preferredCount, List.findIdx_cons, refused]
    rfl

/-- Without lifetimes nothing changes. -/
theorem preferredCount_of_unknown (consistent : descriptor.lifetimes.Consistent)
    (unknown : descriptor.lifetimes = ⟨.unknown, .unknown⟩) (readings : List Binary64) :
    descriptor.preferredCount readings = 0 ∨
      descriptor.preferredCount readings = readings.length := by
  cases readings with
  | nil => exact .inl rfl
  | cons first rest =>
    have constant (reading : Binary64) :
        descriptor.isGlobalPreferred reading = descriptor.isGlobalPreferred first := by
      rw [Bool.eq_iff_iff, isGlobalPreferred_iff_of_consistent consistent,
        isGlobalPreferred_iff_of_consistent consistent, isDeprecatedAt_of_unknown unknown,
        isDeprecatedAt_of_unknown unknown]
    cases holds : descriptor.isGlobalPreferred first with
    | false =>
      left
      rw [preferredCount, List.findIdx_cons, holds]
      rfl
    | true =>
      right
      rw [preferredCount, List.findIdx_eq_length]
      intro reading _
      rw [constant reading, holds]
      rfl

/-- **Ageing is monotone.** From a reading to a later one only the flag for deprecated addresses
changes, it is not cleared, and no address becomes preferred. So along readings that do not go back
the answers are a block of true ones before a block of false ones. They change only if the
lifetimes are known and the address qualifies, and then at the first reading that is not before its
deprecation. -/
theorem ageing_monotone (obtained : descriptor.Obtained) :
    (∀ earlier later : Binary64, earlier.le later = true →
      (∀ position, position ≠ Flag.deprecated.bit →
        (descriptor.flagsAt earlier).unsigned.testBit position =
          (descriptor.flagsAt later).unsigned.testBit position) ∧
      (Flag.deprecated.IsSetIn (descriptor.flagsAt earlier) →
        Flag.deprecated.IsSetIn (descriptor.flagsAt later)) ∧
      (descriptor.isGlobalPreferred later = true → descriptor.isGlobalPreferred earlier = true)) ∧
    (∀ readings : List Binary64, AreNonDecreasing readings → ∃ count, count ≤ readings.length ∧
      readings.map descriptor.isGlobalPreferred =
        List.replicate count true ++ List.replicate (readings.length - count) false ∧
      (¬ descriptor.Qualifies → count = 0) ∧
      (descriptor.lifetimes = ⟨.unknown, .unknown⟩ → count = 0 ∨ count = readings.length) ∧
      (descriptor.lifetimes ≠ ⟨.unknown, .unknown⟩ → descriptor.Qualifies →
        count = readings.findIdx descriptor.lifetimes.deprecation.toNumber.le)) := by
  have consistent := obtained.wellFormed.consistent
  constructor
  · intro earlier later ordered
    refine ⟨fun position => testBit_flagsAt consistent earlier later, ?_,
      isGlobalPreferred_earlier consistent ordered⟩
    rw [deprecated_isSetIn_flagsAt consistent, deprecated_isSetIn_flagsAt consistent]
    exact fun deprecated => IsDeprecatedAt.mono deprecated ordered
  · intro readings ordered
    refine ⟨descriptor.preferredCount readings, List.findIdx_le_length,
      ordered.map_eq_blocks (isGlobalPreferred_earlier consistent),
      fun disqualified => preferredCount_of_not_qualifies consistent disqualified readings,
      fun unknown => preferredCount_of_unknown consistent unknown readings, ?_⟩
    intro known qualifies
    simp only [preferredCount, not_isGlobalPreferred_of_known consistent known qualifies]

/-- A lease that is read before, at and after its deprecation. -/
theorem ageing_monotone_leased :
    leased.Obtained ∧ (999 : Binary64).le 1000 = true ∧
      (Flag.deprecated.IsSetIn (leased.flagsAt 999) →
        Flag.deprecated.IsSetIn (leased.flagsAt 1000)) ∧
      AreNonDecreasing [-1, 999, 1000, .infinity false] ∧
      leased.lifetimes ≠ ⟨.unknown, .unknown⟩ ∧ leased.Qualifies ∧
      [-1, 999, 1000, .infinity false].map leased.isGlobalPreferred =
        [true, true, false, false] := by
  have ordered : (999 : Binary64).le 1000 = true := by
    decide +kernel
  have run : AreNonDecreasing [-1, 999, 1000, .infinity false] := by
    decide +kernel
  have known : leased.lifetimes ≠ ⟨.unknown, .unknown⟩ := by
    decide +kernel
  have first : [-1, 999, 1000, .infinity false].findIdx
      leased.lifetimes.deprecation.toNumber.le = 2 := by
    decide +kernel
  have preferred : leased.isGlobalPreferred 999 = true := by
    decide +kernel
  have qualifies : leased.Qualifies :=
    ((isGlobalPreferred_iff_of_consistent leased_obtained.wellFormed.consistent 999).mp preferred).1
  obtain ⟨step, blocks⟩ := ageing_monotone leased_obtained
  obtain ⟨count, -, answers, -, -, change⟩ := blocks _ run
  rw [change known qualifies, first] at answers
  exact ⟨leased_obtained, ordered, (step 999 1000 ordered).2.1, run, known, qualifies, answers⟩

end Descriptor

end InterfaceAddress
