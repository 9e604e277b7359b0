import InterfaceAddress.Proofs.Wire.RoundTrip
import Mathlib

/-! # The data model of descriptors

Whatever way a descriptor was obtained, it keeps the rules of the data model
(`Descriptor.Invariant`): no other number than an integer in its range is ever
stored as a prefix length or as a known lifetime. Once flags and scope fit their
words as well, every number of a descriptor is an integer that fits its field,
so that a record says exactly what the descriptor says
(`Descriptor.Obtained.invariant`).
-/

namespace InterfaceAddress

open Wire

/-- A lifetime that is known: without end, or a whole number of milliseconds that no other number of
milliseconds rounds to. -/
inductive Lifetime.IsKnown : Lifetime → Prop where
  | permanent : IsKnown .permanent
  | instant {time : Binary64} {value : Int} (isInteger : time.toInt? = some value)
      (nonnegative : 0 ≤ value) (safe : value ≤ 2 ^ 53 - 1) : IsKnown (.instant time)

/-- The rules of the data model. -/
structure Descriptor.Invariant (descriptor : Descriptor) : Prop where
  octetCount : descriptor.address.octets.length = 4 ∨ descriptor.address.octets.length = 16
  unicast : ¬ AreMulticast descriptor.address.octets
  prefixLength : ∃ length : Int, descriptor.prefixLength.toInt? = some length ∧ 0 ≤ length ∧
    length ≤ if descriptor.address.octets.length = 4 then 32 else 128
  lifetimes : descriptor.lifetimes = ⟨.unknown, .unknown⟩ ∨
    descriptor.lifetimes.deprecation.IsKnown ∧ descriptor.lifetimes.expiration.IsKnown ∧
      descriptor.lifetimes.deprecation.toNumber.le descriptor.lifetimes.expiration.toNumber = true

/-- The flags are an unsigned and the scope is a signed word of 32 bits. -/
structure Descriptor.FitsWords (descriptor : Descriptor) : Prop where
  flags : ∃ value : Int, descriptor.storedFlags.toInt? = some value ∧
    0 ≤ value ∧ value ≤ 0xffffffff
  scope : ∃ value : Int, descriptor.scope.toInt? = some value ∧
    -0x80000000 ≤ value ∧ value ≤ 0x7fffffff

/-! ### Lifetimes -/

namespace Lifetime.HasWord

variable {lifetime other : Lifetime} {word otherWord : Int}

/-- Only an unknown lifetime has the word `-1` or a word below. -/
theorem isKnown (hasWord : lifetime.HasWord word) (above : unknownWord < word) :
    lifetime.IsKnown := by
  cases hasWord with
  | unknown => exact absurd above (Int.lt_irrefl _)
  | permanent => exact .permanent
  | instant isInteger safe =>
    rw [unknownWord] at above
    rw [Binary64.maxSafeInteger] at safe
    exact .instant isInteger (by omega) (by omega)

theorem toNumber_le (hasWord : lifetime.HasWord word) (otherHasWord : other.HasWord otherWord)
    (ordered : word ≤ otherWord) : lifetime.toNumber.le other.toNumber = true := by
  rcases ordered.eq_or_lt with rfl | below
  · have same := hasWord.toNumber_same otherHasWord
    rw [Binary64.same, Bool.and_eq_true] at same
    exact same.1
  · have less := (hasWord.toNumber_lt_iff otherHasWord).mpr below
    rw [Binary64.lt, Bool.and_eq_true] at less
    exact less.1

end Lifetime.HasWord

theorem Lifetimes.Consistent.unknown_or_known {lifetimes : Lifetimes}
    (consistent : lifetimes.Consistent) :
    lifetimes = ⟨.unknown, .unknown⟩ ∨
      lifetimes.deprecation.IsKnown ∧ lifetimes.expiration.IsKnown ∧
        lifetimes.deprecation.toNumber.le lifetimes.expiration.toNumber = true := by
  obtain ⟨deprecation, expiration, deprecated, expires, known, ordered, together⟩ := consistent
  by_cases unknown : deprecation = unknownWord
  · obtain rfl := unknown
    obtain rfl := together.mp rfl
    exact .inl (congrArg₂ Lifetimes.mk deprecated.eq_unknown expires.eq_unknown)
  · have above : unknownWord < deprecation := by omega
    exact .inr ⟨deprecated.isKnown above, expires.isKnown (by omega),
      deprecated.toNumber_le expires ordered⟩

/-! ### Descriptors -/

namespace Descriptor

variable {descriptor : Descriptor}

theorem WellFormed.toInvariant (wellFormed : descriptor.WellFormed) : descriptor.Invariant where
  octetCount := descriptor.address.length_octets
  unicast := by
    rw [← Address.isMulticast_iff, wellFormed.unicast]
    exact Bool.false_ne_true
  prefixLength := by
    obtain ⟨length, isInteger, short⟩ := wellFormed.prefixFits
    rw [Address.width_family] at short
    refine ⟨length, isInteger, Int.natCast_nonneg length, ?_⟩
    rcases descriptor.address.length_octets with four | sixteen
    · rw [if_pos four]
      omega
    · rw [if_neg (by omega)]
      omega
  lifetimes := wellFormed.consistent.unknown_or_known

/-- A descriptor whose flags and scope fit their words is not refused. -/
theorem FitsWords.exists_contents (fitsWords : descriptor.FitsWords) :
    ∃ contents, descriptor.contents = .ok contents := by
  have size : capacity 4 = 0x100000000 := rfl
  obtain ⟨flags, flagsInteger, nonnegative, flagsSmall⟩ := fitsWords.flags
  obtain ⟨scope, scopeInteger, scopeLow, scopeHigh⟩ := fitsWords.scope
  lift flags to Nat using nonnegative
  have flagsFound := flagsWord?_eq_some_iff.mpr ⟨flagsInteger, by omega⟩
  have scopeFound := scopeWord?_eq_some_iff.mpr ⟨scopeInteger, by omega, by omega⟩
  exact ⟨_, contents_eq_ok_iff.mpr ⟨_, _, flagsFound, scopeFound, rfl⟩⟩

/-- **Every descriptor keeps the rules of the data model,** whatever way it was obtained. If its
flags and its scope fit their words, it is written in both layouts: every number of it is an
integer that fits its field, and these numbers stand at the positions of the record. -/
theorem Obtained.invariant (obtained : descriptor.Obtained) :
    descriptor.Invariant ∧
    (descriptor.FitsWords → ∀ (layout : Layout) (session : Session),
      ∃ contents octets, descriptor.Holds contents ∧ contents.Fits ∧
        (descriptor.tryEncode layout session).result = .ok (.ok octets) ∧
        Contents.ofRecord layout descriptor.address.octets.length octets =
          contents.restrict layout) := by
  refine ⟨obtained.wellFormed.toInvariant, ?_⟩
  intro fitsWords layout session
  obtain ⟨contents, written⟩ := fitsWords.exists_contents
  obtain ⟨holds, fits⟩ := holds_of_contents obtained.wellFormed written
  have encoded : descriptor.encode layout = .ok (contents.write layout) := by
    rw [encode, written]
    rfl
  refine ⟨contents, contents.write layout, holds, fits, tryEncode_result_eq_ok_iff.mpr encoded, ?_⟩
  rw [holds.address]
  exact Contents.ofRecord_write fits layout

theorem invariant_extreme :
    let descriptor := extremeDescriptor ⟨.instant (.ofInt (2 ^ 53 - 1)), .permanent⟩
    descriptor.Obtained ∧ descriptor.FitsWords ∧ descriptor.Invariant ∧
      ∃ contents octets, descriptor.Holds contents ∧ contents.Fits ∧
        (descriptor.tryEncode .current .initial).result = .ok (.ok octets) ∧
        Contents.ofRecord .current 16 octets = contents := by
  intro descriptor
  let state : DraftState := ⟨some (.ofNat (2 ^ 32 - 1)), some (.ofInt (-2 ^ 31)),
    some (.instant (.ofInt (2 ^ 53 - 1))), some .permanent⟩
  have created : (Draft.tryCreate ⟨.text "::ffff:192.0.2.1", some 96, state⟩ (some false)
      .initial).result = .ok (.ok descriptor) := by
    decide +kernel
  have flags : descriptor.storedFlags.toInt? = some (2 ^ 32 - 1) := by
    decide +kernel
  have scope : descriptor.scope.toInt? = some (-2 ^ 31) := by
    decide +kernel
  have fitsWords : descriptor.FitsWords :=
    ⟨⟨_, flags, by decide, by decide⟩, ⟨_, scope, by decide, by decide⟩⟩
  have kept := Obtained.invariant (.tryCreate created)
  exact ⟨.tryCreate created, fitsWords, kept.1, kept.2 fitsWords .current .initial⟩

end Descriptor

end InterfaceAddress
