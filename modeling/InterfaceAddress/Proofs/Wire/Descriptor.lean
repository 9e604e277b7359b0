import InterfaceAddress.Proofs.Descriptor.Build
import InterfaceAddress.Proofs.Number.Mask
import InterfaceAddress.Proofs.Wire.Contents
import Mathlib

/-! # Descriptors and the numbers of their records

A descriptor holds the numbers of a record if each of its parts has the value
of the field for it (`Descriptor.Holds`). A well-formed descriptor that is not
refused holds the numbers that are written for it (`Descriptor.holds_of_contents`),
and a descriptor is written as the numbers it holds (`Descriptor.Holds.contents_eq`).
Numbers that are read become a descriptor that holds them, unless they break a
rule (`Wire.Contents.rejection?`).
-/

namespace InterfaceAddress

open Wire

/-- Every part of a descriptor has the value of its field. -/
structure Descriptor.Holds (descriptor : Descriptor) (contents : Contents) : Prop where
  address : descriptor.address.octets = contents.address
  prefixLength : descriptor.prefixLength.toInt? = some (contents.prefixLength : Int)
  flags : descriptor.storedFlags.toInt? = some (contents.flags : Int)
  scope : descriptor.scope.toInt? = some contents.scope
  deprecation : descriptor.lifetimes.deprecation.HasWord contents.deprecation
  expiration : descriptor.lifetimes.expiration.HasWord contents.expiration

/-! ### Addresses -/

theorem Address.eq_of_octets_eq {address other : Address} (same : address.octets = other.octets) :
    address = other := by
  cases address
  cases other
  simpa using same

/-- The width of an address in bits, told by its octets. -/
theorem Address.width_family (address : Address) :
    address.family.width = 8 * address.octets.length := by
  rcases address.length_octets with short | long
  · simp [Address.family, Family.width, Family.octetCount, short]
  · simp [Address.family, Family.width, Family.octetCount, long]

/-- Whether octets are in `224.0.0.0/4` or `ff00::/8`. -/
def Wire.AreMulticast (octets : List UInt8) : Prop :=
  if octets.length = 4 then 224 ≤ (octets.headD 0).toNat ∧ (octets.headD 0).toNat < 240
  else (octets.headD 0).toNat = 255

instance (octets : List UInt8) : Decidable (AreMulticast octets) := by
  unfold AreMulticast
  infer_instance

theorem Address.octet_zero (address : Address) : address.octet 0 = address.octets.headD 0 := by
  cases found : address.octets <;> simp [Address.octet, found]

theorem Address.isMulticast_iff (address : Address) :
    address.isMulticast = true ↔ AreMulticast address.octets := by
  rw [Address.isMulticast, Address.family, AreMulticast, Address.octet_zero]
  split_ifs
  · have masked : address.octets.headD 0 &&& 0xf0 = 0xe0 ↔ _ :=
      Netmask.and_eq_iff (by decide : 4 ≤ 8) rfl
    simp only [decide_eq_true_eq, masked, UInt8.reduceToNat]
    omega
  · simp only [decide_eq_true_eq, ← UInt8.toNat_inj]
    rfl

/-! ### Writing -/

namespace Descriptor

variable {descriptor other : Descriptor} {contents : Contents}

theorem flagsWord?_eq_some_iff {number : Binary64} {flags : Nat} :
    flagsWord? number = some flags ↔ number.toInt? = some (flags : Int) ∧ flags < capacity 4 := by
  have size : capacity 4 = 0x100000000 := rfl
  rw [flagsWord?, size]
  cases found : number.toInt? with
  | none => simp
  | some value =>
    cases value with
    | negSucc value => simp
    | ofNat value =>
      simp only [Option.ite_none_right_eq_some, Option.some.injEq, Int.ofNat_eq_natCast,
        Int.natCast_inj]
      omega

theorem scopeWord?_eq_some_iff {number : Binary64} {scope : Int} :
    scopeWord? number = some scope ↔ number.toInt? = some scope ∧
      -capacity 4 ≤ 2 * scope ∧ 2 * scope < capacity 4 := by
  have size : capacity 4 = 0x100000000 := rfl
  rw [scopeWord?, Option.filter_eq_some_iff, decide_eq_true_eq, size]
  exact and_congr_right fun _ => by omega

/-- A descriptor is written exactly if its flags and its scope fit their words. -/
theorem contents_eq_ok_iff : descriptor.contents = .ok contents ↔
    ∃ flags scope, flagsWord? descriptor.storedFlags = some flags ∧
      scopeWord? descriptor.scope = some scope ∧
      contents = {
        address := descriptor.address.octets
        prefixLength := (descriptor.prefixLength.truncate?.getD 0).toNat
        flags
        scope
        deprecation := lifetimeWord descriptor.lifetimes.deprecation
        expiration := lifetimeWord descriptor.lifetimes.expiration } := by
  rw [Descriptor.contents]
  cases flagsWord? descriptor.storedFlags with
  | none => simp [throw, throwThe, MonadExceptOf.throw]
  | some flags =>
    cases scopeWord? descriptor.scope with
    | none => simp [throw, throwThe, MonadExceptOf.throw]
    | some scope => simp [pure, Except.pure, eq_comm]

/-- The numbers that are written are those that the descriptor holds. -/
theorem Holds.contents_eq (holds : descriptor.Holds contents) (fits : contents.Fits) :
    descriptor.contents = .ok contents := by
  have flags := flagsWord?_eq_some_iff.mpr ⟨holds.flags, fits.flags⟩
  have scope := scopeWord?_eq_some_iff.mpr ⟨holds.scope, fits.scope⟩
  have prefixLength := Binary64.truncate?_of_toInt? holds.prefixLength
  refine contents_eq_ok_iff.mpr ⟨_, _, flags, scope, ?_⟩
  rw [holds.address, prefixLength, holds.deprecation.lifetimeWord_eq,
    holds.expiration.lifetimeWord_eq, Option.getD_some, Int.toNat_natCast]

/-- A well-formed descriptor holds the numbers that are written for it, and they fit. -/
theorem holds_of_contents (wellFormed : descriptor.WellFormed)
    (written : descriptor.contents = .ok contents) :
    descriptor.Holds contents ∧ contents.Fits := by
  obtain ⟨length, prefixLength, short⟩ := wellFormed.prefixFits
  obtain ⟨deprecation, expiration, deprecated, expires, -⟩ := wellFormed.consistent
  obtain ⟨flags, scope, flagsFound, scopeFound, rfl⟩ := contents_eq_ok_iff.mp written
  obtain ⟨flagsValue, flagsFit⟩ := flagsWord?_eq_some_iff.mp flagsFound
  obtain ⟨scopeValue, scopeFits⟩ := scopeWord?_eq_some_iff.mp scopeFound
  have narrow := descriptor.address.family.width_le
  rw [Binary64.truncate?_of_toInt? prefixLength, deprecated.lifetimeWord_eq,
    expires.lifetimeWord_eq, Option.getD_some, Int.toNat_natCast]
  exact ⟨⟨rfl, prefixLength, flagsValue, scopeValue, deprecated, expires⟩,
    ⟨by change length < 256; omega, flagsFit, scopeFits, deprecated.fits, expires.fits⟩⟩

/-- A descriptor that holds what a layout has of another one is equal to it. -/
theorem Holds.equals_of_restrict {layout : Layout} (holds : descriptor.Holds contents)
    (otherHolds : other.Holds (contents.restrict layout)) : other.equals descriptor = true := by
  have address : other.address = descriptor.address :=
    Address.eq_of_octets_eq (by rw [otherHolds.address, Contents.address_restrict, holds.address])
  have prefixLength : other.prefixLength.same descriptor.prefixLength = true :=
    (Binary64.same_iff_of_toInt? otherHolds.prefixLength holds.prefixLength).mpr
      (by rw [Contents.prefixLength_restrict])
  have flags : other.storedFlags.same descriptor.storedFlags = true :=
    (Binary64.same_iff_of_toInt? otherHolds.flags holds.flags).mpr (by rw [Contents.flags_restrict])
  have scope : other.scope.same descriptor.scope = true :=
    (Binary64.same_iff_of_toInt? otherHolds.scope holds.scope).mpr (Contents.scope_restrict ..)
  simp only [Descriptor.equals, isSameAddressAs, address, decide_true, prefixLength,
    Binary64.sameOrNan_of_same flags, Binary64.sameOrNan_of_same scope, Bool.and_self]

end Descriptor

/-! ### Reading -/

namespace Wire.Contents

/-- The first rule that the numbers of a record break. -/
def rejection? (contents : Contents) : Option RejectionReason :=
  if 8 * contents.address.length < contents.prefixLength then some .prefixOutOfRange
  else if AreMulticast contents.address then some .multicastAddress
  else if contents.deprecation < unknownWord ∨ contents.expiration < unknownWord then
    some .negativeTimestamp
  else if ¬ (contents.deprecation = unknownWord ↔ contents.expiration = unknownWord) then
    some .asymmetricLifetime
  else if contents.expiration < contents.deprecation then some .deprecationAfterExpiration
  else none

end Wire.Contents

/-- Every part of a draft is given by its field. -/
structure Draft.Holds (draft : Draft) (contents : Contents) : Prop where
  address : ∃ address : Address, draft.address = .address address ∧
    address.octets = contents.address
  prefixLength : draft.prefixLength = some (.ofNat contents.prefixLength)
  flags : draft.state.flags = some (.ofNat contents.flags)
  scope : draft.state.scope = some (.ofInt contents.scope)
  deprecation : draft.lifetimes.deprecation.HasWord contents.deprecation
  expiration : draft.lifetimes.expiration.HasWord contents.expiration

theorem Address.fitsPrefix_ofNat_iff {address : Address} {length : Nat} (small : length < 2 ^ 53) :
    address.FitsPrefix (.ofNat length) ↔ length ≤ 8 * address.octets.length := by
  rw [FitsPrefix, Binary64.toInt?_ofNat small, width_family]
  simp

namespace Draft.Holds

variable {draft : Draft} {contents : Contents} {address : Address} (holds : draft.Holds contents)
  (fits : contents.Fits)
include holds fits

/-- Numbers that fit their fields are exact in double precision. -/
theorem toDescriptor (same : address.octets = contents.address) :
    (draft.toDescriptor address (.ofNat contents.prefixLength)).Holds contents := by
  have size : capacity 4 = 0x100000000 := rfl
  have smallPrefix : contents.prefixLength < 2 ^ 53 :=
    Nat.lt_trans fits.prefixLength (by decide)
  have smallFlags : contents.flags < 2 ^ 53 := Nat.lt_trans fits.flags (by decide)
  have smallScope : contents.scope.natAbs < 2 ^ 53 := by
    have bounds := fits.scope
    rw [size] at bounds
    omega
  refine ⟨same, Binary64.toInt?_ofNat smallPrefix, ?_, ?_, holds.deprecation, holds.expiration⟩
  · rw [Draft.toDescriptor, holds.flags, Option.getD_some]
    exact Binary64.toInt?_ofNat smallFlags
  · rw [Draft.toDescriptor, holds.scope, Option.getD_some]
    exact Binary64.toInt?_ofInt smallScope

/-- A draft is built into a descriptor that holds the same numbers, unless they break a rule. -/
theorem build_cases :
    (∃ rejection, draft.build false = .error rejection ∧
      contents.rejection? = some rejection.reason) ∨
    ∃ descriptor, draft.build false = .ok descriptor ∧ contents.rejection? = none ∧
      descriptor.Holds contents := by
  obtain ⟨address, source, same⟩ := holds.address
  have resolved : draft.address.resolve false = .ok address := by
    rw [source, AddressSource.resolve]
  have smallPrefix : contents.prefixLength < 2 ^ 53 :=
    Nat.lt_trans fits.prefixLength (by decide)
  have fitsPrefix_iff : address.FitsPrefix (.ofNat contents.prefixLength) ↔ _ :=
    Address.fitsPrefix_ofNat_iff smallPrefix
  have multicast := address.isMulticast_iff
  rw [same] at fitsPrefix_iff multicast
  rw [Wire.Contents.rejection?]
  by_cases long : 8 * contents.address.length < contents.prefixLength
  · have misfit : ∀ number, draft.prefixLength = some number → ¬ address.FitsPrefix number := by
      intro number given fit
      rw [holds.prefixLength, Option.some.injEq] at given
      exact Nat.not_le_of_lt long (fitsPrefix_iff.mp (given ▸ fit))
    rw [if_pos long]
    exact .inl ⟨_, Draft.build_of_not_fitsPrefix resolved misfit, rfl⟩
  rw [if_neg long, Draft.build_of_fitsPrefix resolved holds.prefixLength
    (fitsPrefix_iff.mpr (Nat.le_of_not_lt long))]
  by_cases isMulticast : AreMulticast contents.address
  · rw [if_pos isMulticast, if_pos (multicast.mpr isMulticast)]
    exact .inl ⟨_, rfl, rfl⟩
  rw [if_neg isMulticast, if_neg (fun known => isMulticast (multicast.mp known)),
    ← Lifetimes.violation?_reason_of_hasWord holds.deprecation holds.expiration]
  cases draft.lifetimes.violation? with
  | some violation => exact .inl ⟨_, rfl, rfl⟩
  | none => exact .inr ⟨_, rfl, rfl, holds.toDescriptor fits same⟩

end Draft.Holds

namespace Wire.Contents

/-- The descriptor of the numbers of a record. -/
def toDescriptor (contents : Contents) : Except DecodeError Descriptor := do
  let draft ← contents.toDraft
  (draft.build false).mapError .invalid

variable {contents : Contents}

/-- Numbers have a draft exactly if they have lifetimes. -/
theorem toDraft_eq_ok_iff {draft : Draft} : contents.toDraft = .ok draft ↔
    ∃ first second, lifetimeOfWord .deprecation contents.deprecation = .ok first ∧
      lifetimeOfWord .expiration contents.expiration = .ok second ∧
      draft = {
        address := match Address.ofOctets? contents.address false with
          | some address => .address address
          | none => .missing
        prefixLength := some (.ofNat contents.prefixLength)
        state := {
          flags := some (.ofNat contents.flags)
          scope := some (.ofInt contents.scope)
          deprecation := some first
          expiration := some second } } := by
  rw [toDraft]
  cases lifetimeOfWord .deprecation contents.deprecation with
  | error error => simp [bind, Except.bind]
  | ok first =>
    cases lifetimeOfWord .expiration contents.expiration with
    | error error => simp [bind, Except.bind]
    | ok second =>
      simp only [bind, Except.bind, pure, Except.pure, Except.ok.injEq, exists_and_left,
        exists_eq_left']
      exact eq_comm

theorem toDescriptor_eq_ok_iff {descriptor : Descriptor} :
    contents.toDescriptor = .ok descriptor ↔
      ∃ draft, contents.toDraft = .ok draft ∧ draft.build false = .ok descriptor := by
  rw [toDescriptor]
  cases contents.toDraft with
  | error error => simp [bind, Except.bind]
  | ok draft =>
    cases built : draft.build false <;> simp [bind, Except.bind, Except.mapError, built]

theorem toDescriptor_of_not_isLifetimeWord
    (unrepresentable : ¬ (IsLifetimeWord contents.deprecation ∧
      IsLifetimeWord contents.expiration)) :
    ∃ field word, contents.toDescriptor = .error (.timestampOutOfRange field word) := by
  by_cases deprecation : IsLifetimeWord contents.deprecation
  · have expiration : ¬ IsLifetimeWord contents.expiration := fun isLifetimeWord =>
      unrepresentable ⟨deprecation, isLifetimeWord⟩
    obtain ⟨lifetime, read, -⟩ := exists_lifetimeOfWord .deprecation deprecation
    refine ⟨.expiration, contents.expiration, ?_⟩
    simp only [toDescriptor, toDraft, read, lifetimeOfWord_of_not_isLifetimeWord _ expiration,
      bind, Except.bind]
  · refine ⟨.deprecation, contents.deprecation, ?_⟩
    simp only [toDescriptor, toDraft, lifetimeOfWord_of_not_isLifetimeWord _ deprecation, bind,
      Except.bind]

/-- Numbers that have lifetimes have a draft. -/
theorem exists_toDraft (octetCount : contents.address.length = 4 ∨ contents.address.length = 16)
    (deprecation : IsLifetimeWord contents.deprecation)
    (expiration : IsLifetimeWord contents.expiration) :
    ∃ draft, contents.toDraft = .ok draft ∧ draft.Holds contents := by
  obtain ⟨first, firstRead, firstHasWord⟩ := exists_lifetimeOfWord .deprecation deprecation
  obtain ⟨second, secondRead, secondHasWord⟩ := exists_lifetimeOfWord .expiration expiration
  refine ⟨_, toDraft_eq_ok_iff.mpr ⟨first, second, firstRead, secondRead, rfl⟩,
    ⟨⟨contents.address, octetCount⟩, ?_, rfl⟩, rfl, rfl, rfl, firstHasWord, secondHasWord⟩
  simp only [Address.ofOctets?, octetCount, ↓reduceDIte, Bool.false_eq_true, ↓reduceIte]

/-- Numbers that have lifetimes become a descriptor that holds them, unless they break a rule. -/
theorem toDescriptor_cases (fits : contents.Fits)
    (octetCount : contents.address.length = 4 ∨ contents.address.length = 16)
    (deprecation : IsLifetimeWord contents.deprecation)
    (expiration : IsLifetimeWord contents.expiration) :
    (∃ rejection, contents.toDescriptor = .error (.invalid rejection) ∧
      contents.rejection? = some rejection.reason) ∨
    ∃ descriptor, contents.toDescriptor = .ok descriptor ∧ contents.rejection? = none ∧
      descriptor.Holds contents := by
  obtain ⟨draft, read, draftHolds⟩ := exists_toDraft octetCount deprecation expiration
  have become : contents.toDescriptor = (draft.build false).mapError .invalid := by
    rw [toDescriptor, read]
    rfl
  rw [become]
  rcases draftHolds.build_cases fits with ⟨rejection, refused, reason⟩ | ⟨descriptor, built, rest⟩
  · exact .inl ⟨rejection, by rw [refused]; rfl, reason⟩
  · exact .inr ⟨descriptor, by rw [built]; rfl, rest⟩

/-- The descriptor that is read holds the numbers. -/
theorem holds_of_toDescriptor {descriptor : Descriptor} (fits : contents.Fits)
    (octetCount : contents.address.length = 4 ∨ contents.address.length = 16)
    (read : contents.toDescriptor = .ok descriptor) : descriptor.Holds contents := by
  by_cases representable : IsLifetimeWord contents.deprecation ∧ IsLifetimeWord contents.expiration
  · rcases toDescriptor_cases fits octetCount representable.1 representable.2 with
      ⟨rejection, refused, -⟩ | ⟨found, built, -, holds⟩
    · rw [refused] at read
      cases read
    · rw [built] at read
      cases read
      exact holds
  · obtain ⟨field, word, refused⟩ := toDescriptor_of_not_isLifetimeWord representable
    rw [refused] at read
    cases read

/-- Numbers that a well-formed descriptor holds break no rule. -/
theorem rejection?_eq_none_of_holds {descriptor : Descriptor} (wellFormed : descriptor.WellFormed)
    (holds : descriptor.Holds contents) : contents.rejection? = none := by
  obtain ⟨length, prefixLength, short⟩ := wellFormed.prefixFits
  obtain ⟨deprecation, expiration, deprecated, expires, known, ordered, together⟩ :=
    wellFormed.consistent
  have sameDeprecation : contents.deprecation = deprecation :=
    holds.deprecation.lifetimeWord_eq.symm.trans deprecated.lifetimeWord_eq
  have sameExpiration : contents.expiration = expiration :=
    holds.expiration.lifetimeWord_eq.symm.trans expires.lifetimeWord_eq
  have samePrefix : contents.prefixLength = length := by
    have same := holds.prefixLength.symm.trans prefixLength
    simpa using same
  have unicast : ¬ AreMulticast contents.address := by
    rw [← holds.address, ← Address.isMulticast_iff, wellFormed.unicast]
    exact Bool.false_ne_true
  rw [Address.width_family, holds.address] at short
  rw [rejection?, if_neg (by omega), if_neg unicast, if_neg (by omega), if_neg, if_neg (by omega)]
  rw [sameDeprecation, sameExpiration]
  exact not_not_intro together

end Wire.Contents

end InterfaceAddress
