import InterfaceAddress.Descriptor.Basic
import InterfaceAddress.Proofs.Wire.LifetimeWord
import Mathlib

/-! # What is built from a draft

A draft whose address is found is built by three rules in order: the prefix
length, the kind of the address and the lifetimes (`Draft.build_of_fitsPrefix`,
`Draft.build_of_not_fitsPrefix`), and is built exactly if it breaks none of them
(`Draft.build_eq_ok_iff`). So every descriptor that is built keeps these rules
(`Descriptor.WellFormed`).
-/

namespace InterfaceAddress

/-- No address is wider than 128 bits. -/
theorem Family.width_le (family : Family) : family.width ≤ 128 := by
  cases family <;> decide

namespace Address

variable {address : Address} {number : Binary64}

/-- A prefix length fits an address if it is an integer from zero to the width of the address. -/
def FitsPrefix (address : Address) (number : Binary64) : Prop :=
  ∃ length : Nat, number.toInt? = some (length : Int) ∧ length ≤ address.family.width

theorem checkPrefix_of_fitsPrefix (fits : address.FitsPrefix number) :
    address.checkPrefix (some number) = .ok number := by
  obtain ⟨length, isInteger, short⟩ := fits
  have isNatural : number.toInt? = some (Int.ofNat length) := isInteger
  simp only [checkPrefix, isNatural, if_pos short]

theorem checkPrefix_of_not_fitsPrefix {given : Option Binary64}
    (misfit : ∀ number, given = some number → ¬ address.FitsPrefix number) :
    address.checkPrefix given = .error (.prefixOutOfRange given address) := by
  cases given with
  | none => rfl
  | some number =>
    cases found : number.toInt? with
    | none => simp only [checkPrefix, found]
    | some value =>
      cases value with
      | negSucc value => simp only [checkPrefix, found]
      | ofNat length =>
        have long : ¬ length ≤ address.family.width := fun short =>
          misfit number rfl ⟨length, found, short⟩
        simp only [checkPrefix, found, if_neg long]

end Address

namespace Draft

variable {draft : Draft} {collapsing : Bool} {address : Address}

/-- The descriptor of a draft with an address and a prefix length that are known. -/
def toDescriptor (draft : Draft) (address : Address) (prefixLength : Binary64) : Descriptor where
  address
  prefixLength
  storedFlags := draft.state.flags.getD 0
  scope := draft.state.scope.getD address.scope.number
  lifetimes := draft.lifetimes

theorem build_of_unresolved {rejection : Rejection}
    (unresolved : draft.address.resolve collapsing = .error rejection) :
    draft.build collapsing = .error rejection := by
  simp only [build, unresolved, bind, Except.bind]

section Resolved

variable (resolved : draft.address.resolve collapsing = .ok address)
include resolved

theorem build_of_not_fitsPrefix
    (misfit : ∀ number, draft.prefixLength = some number → ¬ address.FitsPrefix number) :
    draft.build collapsing = .error (.prefixOutOfRange draft.prefixLength address) := by
  simp only [build, resolved, Address.checkPrefix_of_not_fitsPrefix misfit, bind, Except.bind]

theorem build_of_fitsPrefix {number : Binary64} (given : draft.prefixLength = some number)
    (fits : address.FitsPrefix number) :
    draft.build collapsing =
      if address.isMulticast then .error (.multicast address)
      else match draft.lifetimes.violation? with
        | some violation => .error (.lifetimes violation)
        | none => .ok (draft.toDescriptor address number) := by
  simp only [build, resolved, given, Address.checkPrefix_of_fitsPrefix fits, bind, Except.bind]
  cases address.isMulticast with
  | true => rfl
  | false =>
    cases draft.lifetimes.violation? with
    | some violation => rfl
    | none => rfl

end Resolved

/-- A draft is built exactly if it breaks no rule. -/
theorem build_eq_ok_iff {descriptor : Descriptor} :
    draft.build collapsing = .ok descriptor ↔
      ∃ address number, draft.address.resolve collapsing = .ok address ∧
        draft.prefixLength = some number ∧ address.FitsPrefix number ∧
        address.isMulticast = false ∧ draft.lifetimes.Consistent ∧
        descriptor = draft.toDescriptor address number := by
  constructor
  · intro built
    cases resolved : draft.address.resolve collapsing with
    | error rejection =>
      rw [build_of_unresolved resolved] at built
      cases built
    | ok address =>
      by_cases fits : ∃ number, draft.prefixLength = some number ∧ address.FitsPrefix number
      · obtain ⟨number, given, fits⟩ := fits
        rw [build_of_fitsPrefix resolved given fits] at built
        split at built
        case isTrue => cases built
        case isFalse unicast =>
          split at built
          · cases built
          · rename_i accepted
            cases built
            exact ⟨address, number, rfl, given, fits, Bool.not_eq_true _ ▸ unicast,
              Lifetimes.violation?_eq_none_iff.mp accepted, rfl⟩
      · rw [build_of_not_fitsPrefix resolved fun number given fit =>
          fits ⟨number, given, fit⟩] at built
        cases built
  · rintro ⟨address, number, resolved, given, fits, unicast, consistent, rfl⟩
    rw [build_of_fitsPrefix resolved given fits, unicast, if_neg Bool.false_ne_true,
      Lifetimes.violation?_eq_none_iff.mpr consistent]

/-- The draft with unknown lifetimes. -/
def withoutLifetimes (draft : Draft) : Draft :=
  { draft with
    state := { draft.state with deprecation := some .unknown, expiration := some .unknown } }

end Draft

namespace Descriptor

/-- The descriptor with unknown lifetimes. -/
def withoutLifetimes (descriptor : Descriptor) : Descriptor :=
  { descriptor with lifetimes := ⟨.unknown, .unknown⟩ }

/-- The rules that every descriptor keeps. -/
structure WellFormed (descriptor : Descriptor) : Prop where
  prefixFits : descriptor.address.FitsPrefix descriptor.prefixLength
  unicast : descriptor.address.isMulticast = false
  consistent : descriptor.lifetimes.Consistent

/-- What is built from a draft keeps the rules. -/
theorem wellFormed_of_build {draft : Draft} {collapsing : Bool} {descriptor : Descriptor}
    (built : draft.build collapsing = .ok descriptor) : descriptor.WellFormed := by
  obtain ⟨address, number, -, -, fits, unicast, consistent, rfl⟩ :=
    Draft.build_eq_ok_iff.mp built
  exact ⟨fits, unicast, consistent⟩

end Descriptor

/-- What is built from a draft is built without its lifetimes as well. -/
theorem Draft.build_withoutLifetimes {draft : Draft} {collapsing : Bool} {descriptor : Descriptor}
    (built : draft.build collapsing = .ok descriptor) :
    draft.withoutLifetimes.build collapsing = .ok descriptor.withoutLifetimes := by
  obtain ⟨address, number, resolved, given, fits, unicast, -, rfl⟩ := build_eq_ok_iff.mp built
  have consistent : draft.withoutLifetimes.lifetimes.Consistent :=
    ⟨Wire.unknownWord, Wire.unknownWord, .unknown, .unknown, le_rfl, le_rfl, Iff.rfl⟩
  exact build_eq_ok_iff.mpr
    ⟨address, number, resolved, given, fits, unicast, consistent, rfl⟩

end InterfaceAddress
