import InterfaceAddress.Proofs.Address.Writing
import InterfaceAddress.Proofs.Descriptor.Equality
import InterfaceAddress.Proofs.Descriptor.Rules
import Mathlib

/-! # Descriptors as values

The value of a descriptor has a member for each of its parts. A draft can be read
off it (`Draft.ofValue?`), which is built to the descriptor again whatever its
flags and its scope are (`Descriptor.build_draft`). So values tell
descriptors apart exactly as far as numbers can be told apart
(`Descriptor.toValue_lossless`).
-/

namespace InterfaceAddress

/-- Integers count as equal if they are equal as integers. -/
theorem Binary64.sameOrNan_iff_of_toInt? {number other : Binary64} {value otherValue : Int}
    (isInteger : number.toInt? = some value) (otherIsInteger : other.toInt? = some otherValue) :
    number.sameOrNan other = true ↔ value = otherValue := by
  have notNan : ¬ (number = nan ∧ other = nan) := by
    rintro ⟨rfl, -⟩
    cases isInteger
  rw [sameOrNan, Bool.or_eq_true, Bool.and_eq_true, decide_eq_true_eq, decide_eq_true_eq,
    or_iff_left notNan, same_iff_of_toInt? isInteger otherIsInteger]

/-! ### Values that are alike -/

mutual

/-- Values are alike if they are the same up to numbers that count as equal. -/
inductive Value.IsAlike : Value → Value → Prop where
  | absent : IsAlike .absent .absent
  | null : IsAlike .null .null
  | bool (value : Bool) : IsAlike (.bool value) (.bool value)
  | number {value other : Binary64} (equal : value.sameOrNan other = true) :
      IsAlike (.number value) (.number other)
  | text (value : String) : IsAlike (.text value) (.text value)
  | list {items others : List Value} (alike : AreItemsAlike items others) :
      IsAlike (.list items) (.list others)
  | object {members others : List (String × Value)} (alike : AreMembersAlike members others) :
      IsAlike (.object members) (.object others)

inductive Value.AreItemsAlike : List Value → List Value → Prop where
  | nil : AreItemsAlike [] []
  | cons {value other : Value} {items others : List Value} (first : IsAlike value other)
      (rest : AreItemsAlike items others) : AreItemsAlike (value :: items) (other :: others)

/-- Members are alike if they have the same names in the same order. -/
inductive Value.AreMembersAlike : List (String × Value) → List (String × Value) → Prop where
  | nil : AreMembersAlike [] []
  | cons {name : String} {value other : Value} {members others : List (String × Value)}
      (first : IsAlike value other) (rest : AreMembersAlike members others) :
      AreMembersAlike ((name, value) :: members) ((name, other) :: others)

end

namespace Value

variable {text otherText name : String} {number otherNumber : Binary64} {value other : Value}
  {members others : List (String × Value)}

@[simp] theorem isAlike_text_iff :
    (Value.text text).IsAlike (.text otherText) ↔ text = otherText := by
  constructor
  · rintro ⟨⟩
    rfl
  · rintro rfl
    exact .text text

@[simp] theorem isAlike_number_iff :
    (Value.number number).IsAlike (.number otherNumber) ↔ number.sameOrNan otherNumber = true := by
  constructor
  · rintro ⟨⟩
    assumption
  · exact .number

@[simp] theorem isAlike_object_iff :
    (Value.object members).IsAlike (.object others) ↔ AreMembersAlike members others := by
  constructor
  · rintro ⟨⟩
    assumption
  · exact .object

@[simp] theorem areMembersAlike_nil : AreMembersAlike [] [] := .nil

@[simp] theorem areMembersAlike_cons_iff :
    AreMembersAlike ((name, value) :: members) ((name, other) :: others) ↔
      value.IsAlike other ∧ AreMembersAlike members others := by
  constructor
  · rintro ⟨⟩
    exact ⟨by assumption, by assumption⟩
  · rintro ⟨first, rest⟩
    exact .cons first rest

end Value

/-! ### Lifetimes -/

/-- The lifetime that a value stands for. -/
def Lifetime.ofValue? : Value → Option Lifetime
  | .null => some .unknown
  | .text word => if word = "permanent" then some .permanent else none
  | .number time => some (.ofNumber time)
  | _ => none

namespace Lifetime.HasWord

variable {lifetime other : Lifetime} {word otherWord : Int}

theorem ofNumber_eq {time : Binary64} (hasWord : (Lifetime.instant time).HasWord word) :
    ofNumber time = .instant time := by
  cases hasWord with
  | instant isInteger safe known =>
    rcases ofNumber_cases time with ⟨isUnknown, -⟩ | ⟨rfl, -⟩ | ⟨-, -, equal⟩
    · rw [isInteger] at isUnknown
      exact absurd (Option.some.inj isUnknown) known
    · cases isInteger
    · exact equal

/-- A lifetime that has a word is read off its value. -/
theorem ofValue?_toValue (hasWord : lifetime.HasWord word) :
    ofValue? lifetime.toValue = some lifetime := by
  cases lifetime with
  | unknown => rfl
  | permanent => rfl
  | instant time => rw [toValue, ofValue?, hasWord.ofNumber_eq]

variable (hasWord : lifetime.HasWord word) (otherHasWord : other.HasWord otherWord)
include hasWord otherHasWord

/-- Lifetimes are equal as numbers if they have the same word. -/
theorem same_iff : lifetime.toNumber.same other.toNumber = true ↔ word = otherWord := by
  constructor
  · intro same
    rw [Binary64.same, Bool.and_eq_true] at same
    have notBelow := hasWord.toNumber_lt_iff otherHasWord
    have notAbove := otherHasWord.toNumber_lt_iff hasWord
    simp only [Binary64.lt, same.1, same.2, Bool.not_true, Bool.and_false, Bool.false_eq_true,
      false_iff] at notBelow notAbove
    omega
  · rintro rfl
    exact hasWord.toNumber_same otherHasWord

/-- No two kinds of lifetimes have values that are alike. -/
theorem isAlike_toValue_iff : lifetime.toValue.IsAlike other.toValue ↔ word = otherWord := by
  cases hasWord with
  | unknown =>
    cases otherHasWord with
    | unknown => exact iff_of_true .null rfl
    | permanent => exact iff_of_false nofun (by decide)
    | instant _ _ known => exact iff_of_false nofun known.symm
  | permanent =>
    cases otherHasWord with
    | unknown => exact iff_of_false nofun (by decide)
    | permanent => exact iff_of_true (.text _) rfl
    | instant _ safe _ =>
      refine iff_of_false nofun ?_
      rintro rfl
      exact absurd safe (by decide)
  | instant isInteger safe known =>
    cases otherHasWord with
    | unknown => exact iff_of_false nofun known
    | permanent =>
      refine iff_of_false nofun ?_
      rintro rfl
      exact absurd safe (by decide)
    | instant otherIsInteger _ _ =>
      rw [toValue, toValue, Value.isAlike_number_iff,
        Binary64.sameOrNan_iff_of_toInt? isInteger otherIsInteger]

end Lifetime.HasWord

/-- The lifetimes are equal as numbers. -/
def Lifetimes.AreSame (lifetimes other : Lifetimes) : Prop :=
  lifetimes.deprecation.toNumber.same other.deprecation.toNumber = true ∧
    lifetimes.expiration.toNumber.same other.expiration.toNumber = true

/-! ### Descriptors -/

/-- The draft that is read off the members of a value. -/
def Draft.ofValue? (value : Value) : Option Draft := do
  let .text address := value.member "address" | none
  let .number prefixLength := value.member "prefixLength" | none
  let .number flags := value.member "flags" | none
  let .number scope := value.member "scope" | none
  let deprecation ← Lifetime.ofValue? (value.member "deprecationTime")
  let expiration ← Lifetime.ofValue? (value.member "expirationTime")
  return ⟨.text address, some prefixLength, ⟨some flags, some scope, some deprecation,
    some expiration⟩⟩

namespace Descriptor

variable {descriptor other : Descriptor}

/-- The draft with all parts of a descriptor, its address in text. -/
def draft (descriptor : Descriptor) : Draft where
  address := .text descriptor.address.text
  prefixLength := some descriptor.prefixLength
  state := ⟨some descriptor.storedFlags, some descriptor.scope,
    some descriptor.lifetimes.deprecation, some descriptor.lifetimes.expiration⟩

theorem ofValue?_toValue (wellFormed : descriptor.WellFormed) :
    Draft.ofValue? descriptor.toValue = some descriptor.draft := by
  obtain ⟨deprecation, expiration, deprecated, expires, -⟩ := wellFormed.consistent
  simp only [Draft.ofValue?, toValue, Value.member, Value.members, List.lookup, String.reduceBEq,
    Option.getD_some, deprecated.ofValue?_toValue, expires.ofValue?_toValue]
  rfl

/-- A descriptor that keeps the rules is built from its own parts. -/
theorem build_draft (wellFormed : descriptor.WellFormed) :
    descriptor.draft.build false = .ok descriptor := by
  have read := descriptor.address.read?_text_eq false
  rw [if_neg Bool.false_ne_true] at read
  exact Draft.build_eq_ok_iff.mpr ⟨descriptor.address, descriptor.prefixLength,
    AddressSource.resolve_text_eq_ok_iff.mpr read, rfl, wellFormed.prefixFits, wellFormed.unicast,
    wellFormed.consistent, rfl⟩

/-- Values are alike if the descriptors are equal and have the same lifetimes. -/
theorem isAlike_toValue_iff (wellFormed : descriptor.WellFormed)
    (otherWellFormed : other.WellFormed) : descriptor.toValue.IsAlike other.toValue ↔
      descriptor.equals other = true ∧ descriptor.lifetimes.AreSame other.lifetimes := by
  obtain ⟨length, isInteger, -⟩ := wellFormed.prefixFits
  obtain ⟨otherLength, otherIsInteger, -⟩ := otherWellFormed.prefixFits
  obtain ⟨_, _, deprecated, expires, -⟩ := wellFormed.consistent
  obtain ⟨_, _, otherDeprecated, otherExpires, -⟩ := otherWellFormed.consistent
  have samePrefix := Binary64.same_iff_of_toInt? isInteger otherIsInteger
  have alikePrefix := Binary64.sameOrNan_iff_of_toInt? isInteger otherIsInteger
  have deprecation := (deprecated.isAlike_toValue_iff otherDeprecated).trans
    (deprecated.same_iff otherDeprecated).symm
  have expiration := (expires.isAlike_toValue_iff otherExpires).trans
    (expires.same_iff otherExpires).symm
  rw [equals_iff, isSameAddressAs, Bool.and_eq_true, decide_eq_true_eq, samePrefix]
  simp only [toValue, Value.isAlike_object_iff, Value.areMembersAlike_cons_iff,
    Value.isAlike_text_iff, Value.isAlike_number_iff, Value.areMembersAlike_nil, and_true,
    alikePrefix, deprecation, expiration, Lifetimes.AreSame, Address.text_injective.eq_iff,
    and_assoc]

/-- **A descriptor is recovered from its value.** In every session, the draft that is read off the
value of a descriptor, whatever way it was obtained, gives the descriptor itself. The values of two
descriptors are alike exactly if the descriptors are equal and their lifetimes are equal as
numbers. -/
theorem toValue_lossless (obtained : descriptor.Obtained) (otherObtained : other.Obtained)
    (session : Session) :
    (∃ draft, Draft.ofValue? descriptor.toValue = some draft ∧
      (draft.tryCreate (some false) session).result = .ok (.ok descriptor)) ∧
    descriptor.equals descriptor = true ∧ descriptor.lifetimes.AreSame descriptor.lifetimes ∧
    (descriptor.toValue.IsAlike other.toValue ↔
      descriptor.equals other = true ∧ descriptor.lifetimes.AreSame other.lifetimes) := by
  have wellFormed := obtained.wellFormed
  refine ⟨⟨descriptor.draft, ofValue?_toValue wellFormed, ?_⟩,
    equals_equivalence.refl ⟨descriptor, wellFormed⟩, ?_,
    isAlike_toValue_iff wellFormed otherObtained.wellFormed⟩
  · exact congrArg Outcome.result (Draft.tryCreate_run_of_ok rfl (build_draft wellFormed))
  · obtain ⟨_, _, deprecated, expires, -⟩ := wellFormed.consistent
    exact ⟨deprecated.toNumber_same deprecated, expires.toNumber_same expires⟩

/-- An embedding address with flags that are no number, a scope of minus zero and one lifetime
without end. The value does not tell the sign of its scope, but it tells the other lifetime. -/
theorem toValue_lossless_embedding :
    let descriptor : Descriptor := ⟨.embedding, 96, .nan, -0, ⟨.instant 1000, .permanent⟩⟩
    let other : Descriptor := ⟨.embedding, 96, .nan, 0, ⟨.instant 1000, .permanent⟩⟩
    let expired : Descriptor := ⟨.embedding, 96, .nan, -0, ⟨.instant 1000, .instant 2000⟩⟩
    descriptor.Obtained ∧ other.Obtained ∧ expired.Obtained ∧
      (∃ draft, Draft.ofValue? descriptor.toValue = some draft ∧
        (draft.tryCreate (some false) .initial).result = .ok (.ok descriptor)) ∧
      descriptor.toValue.IsAlike other.toValue ∧ ¬ descriptor.toValue.IsAlike expired.toValue := by
  intro descriptor other expired
  have created : (Draft.tryCreate ⟨.text "::ffff:192.0.2.1", some 96,
      ⟨some .nan, some (-0), some (.instant 1000), some .permanent⟩⟩ (some false) .initial).result =
        .ok (.ok descriptor) := by
    decide +kernel
  have otherCreated : (Draft.tryCreate ⟨.address .embedding, some 96,
      ⟨some .nan, some 0, some (.instant 1000), some .permanent⟩⟩ none .initial).result =
        .ok (.ok other) := by
    decide +kernel
  have expiredCreated : (Draft.tryCreate ⟨.address .embedding, some 96,
      ⟨some .nan, some (-0), some (.instant 1000), some (.instant 2000)⟩⟩ none .initial).result =
        .ok (.ok expired) := by
    decide +kernel
  have equal : descriptor.equals other = true := by
    decide +kernel
  have ends : Lifetime.permanent.toNumber.same (Lifetime.instant 2000).toNumber = false := by
    decide +kernel
  obtain ⟨rebuilt, -, sameLifetimes, alike⟩ :=
    toValue_lossless (.tryCreate created) (.tryCreate otherCreated) .initial
  obtain ⟨-, -, -, alikeExpired⟩ :=
    toValue_lossless (.tryCreate created) (.tryCreate expiredCreated) .initial
  refine ⟨.tryCreate created, .tryCreate otherCreated, .tryCreate expiredCreated, rebuilt,
    alike.mpr ⟨equal, sameLifetimes⟩, fun same => ?_⟩
  exact Bool.false_ne_true (ends.symm.trans (alikeExpired.mp same).2.2)

end Descriptor

end InterfaceAddress
