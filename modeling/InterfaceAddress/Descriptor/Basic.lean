import InterfaceAddress.Address.Reader
import InterfaceAddress.Address.Writer
import InterfaceAddress.Lifetime
import InterfaceAddress.Scope

/-! # Descriptors of interface addresses

A descriptor holds one address of a network interface with its prefix length,
flags, scope and lifetimes. Every descriptor is built from a draft by the rules
of this module, which are checked in order: the address is there and numeric,
the prefix length fits its family, the address is not multicast, and the
lifetimes are consistent. Flags and scope are kept exactly as given.
-/

namespace InterfaceAddress

/-- One address of a network interface. -/
structure Descriptor where
  address : Address
  prefixLength : Binary64
  storedFlags : Binary64
  scope : Binary64
  lifetimes : Lifetimes
deriving DecidableEq

/-- Where the address of a draft comes from. -/
inductive AddressSource where
  | missing
  | text (text : String)
  | address (address : Address)
deriving DecidableEq

/-- The optional parts of a draft. -/
structure DraftState where
  flags : Option Binary64
  scope : Option Binary64
  deprecation : Option Lifetime
  expiration : Option Lifetime
deriving DecidableEq

def DraftState.empty : DraftState := ⟨none, none, none, none⟩

/-- What a descriptor is built from. -/
structure Draft where
  address : AddressSource
  prefixLength : Option Binary64
  state : DraftState
deriving DecidableEq

inductive RejectionReason where
  | nullAddress
  | prefixOutOfRange
  | multicastAddress
  | asymmetricLifetime
  | deprecationAfterExpiration
  | negativeTimestamp
deriving DecidableEq

def RejectionReason.name : RejectionReason → String
  | nullAddress => "NullAddress"
  | prefixOutOfRange => "PrefixOutOfRange"
  | multicastAddress => "MulticastAddress"
  | asymmetricLifetime => "AsymmetricLifetime"
  | deprecationAfterExpiration => "DeprecationAfterExpiration"
  | negativeTimestamp => "NegativeTimestamp"

/-- Why no descriptor is built. -/
inductive Rejection where
  | missingAddress
  | notNumeric (text : String)
  | recordWithoutAddress
  | prefixOutOfRange (prefixLength : Option Binary64) (address : Address)
  | multicast (address : Address)
  | lifetimes (violation : LifetimeViolation)
deriving DecidableEq

namespace LifetimeViolation

def reason : LifetimeViolation → RejectionReason
  | notTimestamp _ _ => .negativeTimestamp
  | oneUnknown => .asymmetricLifetime
  | deprecatedAfterExpiration _ => .deprecationAfterExpiration

def message : LifetimeViolation → String
  | notTimestamp field lifetime =>
    field.label ++ " must be a non-negative integer timestamp, LIFETIME_UNKNOWN or " ++
      "LIFETIME_PERMANENT, got " ++ lifetime.toNumber.text
  | oneUnknown =>
    "deprecationTime and expirationTime must both be known or both be LIFETIME_UNKNOWN"
  | deprecatedAfterExpiration lifetimes =>
    "deprecationTime " ++ lifetimes.deprecation.toNumber.text ++ " is later than expirationTime " ++
      lifetimes.expiration.toNumber.text

end LifetimeViolation

namespace Rejection

def reason : Rejection → RejectionReason
  | missingAddress => .nullAddress
  | notNumeric _ => .nullAddress
  | recordWithoutAddress => .nullAddress
  | prefixOutOfRange _ _ => .prefixOutOfRange
  | multicast _ => .multicastAddress
  | lifetimes violation => violation.reason

def message : Rejection → String
  | missingAddress => "Address must not be null"
  | notNumeric text => "Not a numeric IP address: " ++ text
  | recordWithoutAddress => "Interface record has no address"
  | prefixOutOfRange prefixLength address =>
    "Prefix length " ++ (prefixLength.map Binary64.text).getD "undefined" ++ " out of range 0.." ++
      address.family.width.repr ++ " for " ++ address.text
  | multicast address =>
    "Multicast address " ++ address.text ++ " cannot be an interface address"
  | lifetimes violation => violation.message

end Rejection

namespace AddressSource

/-- The address of a source; text is read with embedded addresses collapsed on request. -/
def resolve (source : AddressSource) (collapsing : Bool) : Except Rejection Address :=
  match source with
  | .missing => .error .missingAddress
  | .address given => .ok given
  | .text given =>
    match Address.read? given collapsing with
    | some found => .ok found
    | none => .error (if given = "" then .missingAddress else .notNumeric given)

/-- The text of a source as it was given. -/
def text? : AddressSource → Option String
  | .missing => none
  | .text given => some given
  | .address given => some given.text

end AddressSource

/-- A prefix length that fits the family of an address. -/
def Address.checkPrefix (address : Address) (prefixLength : Option Binary64) :
    Except Rejection Binary64 :=
  match prefixLength with
  | none => .error (.prefixOutOfRange none address)
  | some number =>
    match number.toInt? with
    | some (.ofNat length) =>
      if length ≤ address.family.width then .ok number
      else .error (.prefixOutOfRange number address)
    | _ => .error (.prefixOutOfRange number address)

namespace Draft

/-- The lifetimes of a draft; those not given are unknown. -/
def lifetimes (draft : Draft) : Lifetimes :=
  ⟨draft.state.deprecation.getD .unknown, draft.state.expiration.getD .unknown⟩

/-- Build a descriptor, or give the first rule that the draft breaks. -/
def build (draft : Draft) (collapsing : Bool) : Except Rejection Descriptor := do
  let address ← draft.address.resolve collapsing
  let prefixLength ← address.checkPrefix draft.prefixLength
  if address.isMulticast then throw (.multicast address)
  if let some violation := draft.lifetimes.violation? then throw (.lifetimes violation)
  return {
    address
    prefixLength
    storedFlags := draft.state.flags.getD 0
    scope := draft.state.scope.getD address.scope.number
    lifetimes := draft.lifetimes }

end Draft

namespace Descriptor

/-! ### Flags and preference -/

def flagsAt (descriptor : Descriptor) (now : Binary64) : Binary64 :=
  descriptor.lifetimes.effectiveFlags descriptor.storedFlags now

/-- Whether the address may be a default global source address: its scope is universal, it is no
unique local address, it is neither deprecated nor a duplicate, and it is tentative only if it is
optimistic as well. -/
def isGlobalPreferred (descriptor : Descriptor) (now : Binary64) : Bool :=
  let word := (descriptor.flagsAt now).toBits32
  descriptor.scope.same Scope.universal.number && !descriptor.address.isUniqueLocal &&
    !Flag.duplicateDetected.isIn word && !Flag.deprecated.isIn word &&
    (!Flag.tentative.isIn word || Flag.optimistic.isIn word)

/-! ### Equality -/

/-- Same address and prefix length. -/
def isSameAddressAs (descriptor other : Descriptor) : Bool :=
  descriptor.address = other.address && descriptor.prefixLength.same other.prefixLength

/-- Same address, prefix length, flags and scope. Lifetimes do not count: a renewed lease is the
same address. -/
def equals (descriptor other : Descriptor) : Bool :=
  descriptor.isSameAddressAs other && descriptor.storedFlags.sameOrNan other.storedFlags &&
    descriptor.scope.sameOrNan other.scope

/-- One step of the polynomial hash. The sum is taken in double precision. -/
def hashStep (hash : BitVec 32) (field : Binary64) : BitVec 32 :=
  (Binary64.ofInt (31 * hash).toInt + field).toBits32

/-- A hash over what equality compares. -/
def hash (descriptor : Descriptor) : BitVec 32 :=
  [Binary64.ofInt descriptor.address.hash.toInt, descriptor.prefixLength, descriptor.storedFlags,
    descriptor.scope].foldl hashStep 1

end Descriptor

end InterfaceAddress
