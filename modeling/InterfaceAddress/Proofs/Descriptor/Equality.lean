import InterfaceAddress.Proofs.Address.Writing
import InterfaceAddress.Proofs.Number.Equality
import InterfaceAddress.Proofs.Session.Origin
import Mathlib

/-! # Equality of descriptors

Descriptors have the same address if they agree in the address and in the value
of the prefix length (`Descriptor.isSameAddressAs_iff`), and they are equal if
their flags and scopes count as equal as well (`Descriptor.equals_iff`). No step
of the hash tells numbers apart that count as equal (`Descriptor.hashStep_congr`).
So both are equivalences among the descriptors that can be obtained, and equal
ones have one hash (`Descriptor.equality_lawful`).
-/

namespace InterfaceAddress

/-- An address that embeds another is not of its family. -/
theorem Address.Embeds.family_ne {address embedded : Address} (embeds : address.Embeds embedded) :
    address.family ≠ embedded.family := by
  intro same
  have widths := congrArg Family.width same
  rw [width_family, width_family, embeds.length_octets.1, embeds.length_octets.2] at widths
  cases widths

namespace Descriptor

variable {descriptor other : Descriptor}

/-- What decides whether two descriptors have the same address. -/
def key (descriptor : Descriptor) : Address × Option Int :=
  (descriptor.address, descriptor.prefixLength.toInt?)

theorem isSameAddressAs_iff (wellFormed : descriptor.WellFormed)
    (otherWellFormed : other.WellFormed) :
    descriptor.isSameAddressAs other = true ↔ descriptor.key = other.key := by
  obtain ⟨length, isInteger, -⟩ := wellFormed.prefixFits
  obtain ⟨otherLength, otherIsInteger, -⟩ := otherWellFormed.prefixFits
  rw [isSameAddressAs, Bool.and_eq_true, decide_eq_true_eq, key, key, Prod.mk.injEq,
    Binary64.same_iff_of_toInt? isInteger otherIsInteger, isInteger, otherIsInteger,
    Option.some.injEq]

theorem equals_iff : descriptor.equals other = true ↔
    descriptor.isSameAddressAs other = true ∧
      descriptor.storedFlags.sameOrNan other.storedFlags = true ∧
      descriptor.scope.sameOrNan other.scope = true := by
  rw [equals, Bool.and_eq_true, Bool.and_eq_true, and_assoc]

theorem isSameAddressAs_of_family_ne (apart : descriptor.address.family ≠ other.address.family) :
    descriptor.isSameAddressAs other = false := by
  have differ : descriptor.address ≠ other.address := fun same => apart (congrArg _ same)
  rw [isSameAddressAs, decide_eq_false differ, Bool.false_and]

/-! ### Hashes -/

/-- A field enters the hash only as what equality compares. -/
theorem hashStep_congr {field otherField : Binary64} (equal : field.sameOrNan otherField = true)
    (hash : BitVec 32) : hashStep hash field = hashStep hash otherField := by
  rcases Binary64.sameOrNan_iff.mp equal with rfl | ⟨isZero, otherIsZero⟩
  · rfl
  · rw [hashStep, hashStep, Binary64.toBits32_add_of_zero _ isZero,
      Binary64.toBits32_add_of_zero _ otherIsZero]

theorem foldl_hashStep_congr {fields otherFields : List Binary64}
    (equal : List.Forall₂ (fun field otherField => field.sameOrNan otherField = true)
      fields otherFields) (hash : BitVec 32) :
    fields.foldl hashStep hash = otherFields.foldl hashStep hash := by
  induction equal generalizing hash with
  | nil => rfl
  | cons same _ ih => rw [List.foldl_cons, List.foldl_cons, hashStep_congr same, ih]

theorem hash_eq_of_equals (equal : descriptor.equals other = true) :
    descriptor.hash = other.hash := by
  obtain ⟨sameAddress, sameFlags, sameScope⟩ := equals_iff.mp equal
  rw [isSameAddressAs, Bool.and_eq_true, decide_eq_true_eq] at sameAddress
  obtain ⟨address, prefixLength⟩ := sameAddress
  rw [hash, hash, address]
  exact foldl_hashStep_congr (.cons (Binary64.sameOrNan_self _)
    (.cons (Binary64.sameOrNan_of_same prefixLength) (.cons sameFlags (.cons sameScope .nil)))) 1

/-! ### Equivalences -/

theorem isSameAddressAs_equivalence :
    Equivalence fun descriptor other : {descriptor : Descriptor // descriptor.WellFormed} =>
      descriptor.1.isSameAddressAs other.1 = true := by
  have equivalence := eq_equivalence.comap
    fun descriptor : {descriptor : Descriptor // descriptor.WellFormed} => descriptor.1.key
  convert equivalence using 3 with descriptor other
  exact isSameAddressAs_iff descriptor.2 other.2

theorem equals_equivalence :
    Equivalence fun descriptor other : {descriptor : Descriptor // descriptor.WellFormed} =>
      descriptor.1.equals other.1 = true := by
  have address := isSameAddressAs_equivalence
  have number := Binary64.sameOrNan_equivalence
  simp only [equals_iff]
  exact {
    refl := fun descriptor => ⟨address.refl descriptor, number.refl _, number.refl _⟩
    symm := fun equal => ⟨address.symm equal.1, number.symm equal.2.1, number.symm equal.2.2⟩
    trans := fun equal alsoEqual => ⟨address.trans equal.1 alsoEqual.1,
      number.trans equal.2.1 alsoEqual.2.1, number.trans equal.2.2 alsoEqual.2.2⟩ }

/-- A descriptor that was obtained in some way. -/
abbrev Obtainable := {descriptor : Descriptor // descriptor.Obtained}

/-- **Equality is an equivalence, and the hash respects it.** Whatever numbers flags and scopes are,
to have the same address and to be equal are equivalences among the descriptors that can be
obtained. The first compares octets and prefix lengths only, the second implies it, and equal
descriptors have one hash, a signed number of 32 bits. None of the three looks at the lifetimes,
and an address is never that of another family, not even the one that it embeds. -/
theorem equality_lawful :
    (Equivalence fun descriptor other : Obtainable =>
      descriptor.1.isSameAddressAs other.1 = true) ∧
    (Equivalence fun descriptor other : Obtainable => descriptor.1.equals other.1 = true) ∧
    (∀ descriptor other : Descriptor, descriptor.Obtained → other.Obtained →
      (descriptor.equals other = true →
        descriptor.isSameAddressAs other = true ∧ descriptor.hash = other.hash) ∧
      (descriptor.isSameAddressAs other = true ↔
        descriptor.address.octets = other.address.octets ∧
          ∃ length : Nat, descriptor.prefixLength.toInt? = some (length : Int) ∧
            other.prefixLength.toInt? = some (length : Int)) ∧
      (descriptor.address.family ≠ other.address.family →
        descriptor.isSameAddressAs other = false ∧ descriptor.equals other = false)) ∧
    (∀ (descriptor other : Descriptor) (lifetimes otherLifetimes : Lifetimes),
      let renewed := { descriptor with lifetimes := lifetimes }
      let otherRenewed := { other with lifetimes := otherLifetimes }
      renewed.isSameAddressAs otherRenewed = descriptor.isSameAddressAs other ∧
        renewed.equals otherRenewed = descriptor.equals other ∧ renewed.hash = descriptor.hash) ∧
    (∀ descriptor : Descriptor,
      -2 ^ 31 ≤ descriptor.hash.toInt ∧ descriptor.hash.toInt < 2 ^ 31) ∧
    ∀ address other : Address,
      address.family ≠ other.family ∨ address.Embeds other → address ≠ other := by
  let wellFormed (descriptor : Obtainable) : {descriptor : Descriptor // descriptor.WellFormed} :=
    ⟨descriptor.1, descriptor.2.wellFormed⟩
  refine ⟨isSameAddressAs_equivalence.comap wellFormed, equals_equivalence.comap wellFormed,
    ?pairs, fun _ _ _ _ => ⟨rfl, rfl, rfl⟩, ?bounds, ?families⟩
  case pairs =>
    intro descriptor other obtained otherObtained
    refine ⟨fun equal => ⟨(equals_iff.mp equal).1, hash_eq_of_equals equal⟩, ?_, ?_⟩
    · obtain ⟨length, isInteger, -⟩ := obtained.wellFormed.prefixFits
      rw [isSameAddressAs_iff obtained.wellFormed otherObtained.wellFormed, key, key,
        Prod.mk.injEq, isInteger]
      constructor
      · rintro ⟨sameAddress, samePrefix⟩
        exact ⟨congrArg _ sameAddress, length, rfl, samePrefix.symm⟩
      · rintro ⟨sameOctets, _, samePrefix, otherPrefix⟩
        exact ⟨Address.eq_of_octets_eq sameOctets, samePrefix.trans otherPrefix.symm⟩
    · intro apart
      have differ := isSameAddressAs_of_family_ne apart
      exact ⟨differ, by rw [equals, differ, Bool.false_and, Bool.false_and]⟩
  case bounds =>
    intro descriptor
    exact ⟨BitVec.le_toInt _, BitVec.toInt_lt⟩
  case families =>
    rintro address other (apart | embeds) rfl
    · exact apart rfl
    · exact embeds.family_ne rfl

/-- Zeros of both signs are equal and so is not-a-number, but not the embedded address. -/
theorem equality_lawful_zeros :
    let descriptor : Descriptor := ⟨.embedding, 0, .nan, -0, ⟨.unknown, .unknown⟩⟩
    let other : Descriptor := ⟨.embedding, -0, .nan, 0, ⟨.instant 1000, .permanent⟩⟩
    let embedded : Descriptor := ⟨⟨[192, 0, 2, 1], .inl rfl⟩, 0, .nan, 0, ⟨.unknown, .unknown⟩⟩
    descriptor.Obtained ∧ other.Obtained ∧ embedded.Obtained ∧ descriptor.equals other = true ∧
      (descriptor.isSameAddressAs other = true ∧ descriptor.hash = other.hash) ∧
      descriptor.address.Embeds embedded.address ∧ descriptor.address ≠ embedded.address ∧
      descriptor.isSameAddressAs embedded = false ∧ descriptor.equals embedded = false := by
  intro descriptor other embedded
  have created : (Draft.tryCreate ⟨.text "::ffff:192.0.2.1", some 0,
      ⟨some .nan, some (-0), none, none⟩⟩ (some false) .initial).result =
        .ok (.ok descriptor) := by
    decide +kernel
  have otherCreated : (Draft.tryCreate ⟨.text "::ffff:c000:201", some (-0),
      ⟨some .nan, none, some (.instant 1000), some .permanent⟩⟩ (some false) .initial).result =
        .ok (.ok other) := by
    decide +kernel
  have embeddedCreated : (Draft.tryCreate ⟨.text "192.0.2.1", some 0,
      ⟨some .nan, none, none, none⟩⟩ (some true) .initial).result = .ok (.ok embedded) := by
    decide +kernel
  have equal : descriptor.equals other = true := by
    decide +kernel
  have embeds : descriptor.address.Embeds embedded.address := rfl
  obtain ⟨-, -, pairs, -, -, addresses⟩ := equality_lawful
  have equals := pairs descriptor other (.tryCreate created) (.tryCreate otherCreated)
  have differs := pairs descriptor embedded (.tryCreate created) (.tryCreate embeddedCreated)
  exact ⟨.tryCreate created, .tryCreate otherCreated, .tryCreate embeddedCreated, equal,
    equals.1 equal, embeds, addresses _ _ (.inr embeds), differs.2.2 embeds.family_ne⟩

end Descriptor

end InterfaceAddress
