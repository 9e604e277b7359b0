import InterfaceAddress.Address.Basic

/-! # Layouts of encoded descriptors

A record starts with the number of address octets. The legacy layout has four
fields; the current layout appends the two lifetimes, so that a legacy reader
that stops after the scope is not affected. Which layout a record has is told by
its length.
-/

namespace InterfaceAddress.Wire

/-- The fields of a record. The address field includes the octet that counts the others. -/
inductive Field where
  | address
  | prefixLength
  | flags
  | scope
  | deprecation
  | expiration
deriving DecidableEq

/-- How many octets a field takes for an address of this many octets. -/
def Field.size (addressLength : Nat) : Field → Nat
  | address => 1 + addressLength
  | prefixLength => 1
  | flags => 4
  | scope => 4
  | deprecation => 8
  | expiration => 8

inductive Layout where
  | legacy
  | current
deriving DecidableEq

namespace Layout

def name : Layout → String
  | legacy => "legacy"
  | current => "current"

def fields : Layout → List Field
  | legacy => [.address, .prefixLength, .flags, .scope]
  | current => [.address, .prefixLength, .flags, .scope, .deprecation, .expiration]

/-- The length of a record for an address of this many octets. -/
def length (layout : Layout) (addressLength : Nat) : Nat :=
  layout.fields.foldr (fun field rest => field.size addressLength + rest) 0

/-- The length where the number of address octets is double-precision. The fields of the legacy
layout are counted first, and each sum is rounded. -/
def roundedLength (layout : Layout) (addressLength : Binary64) : Binary64 :=
  let legacyLength := .ofNat (legacy.length 0) + addressLength
  match layout with
  | legacy => legacyLength
  | current => legacyLength + .ofNat (current.length 0 - legacy.length 0)

end Layout

end InterfaceAddress.Wire
