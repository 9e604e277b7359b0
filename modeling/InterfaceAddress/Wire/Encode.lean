import InterfaceAddress.Descriptor.Basic
import InterfaceAddress.Wire.BigEndian
import InterfaceAddress.Wire.Layout

/-! # Encoding descriptors

Flags are written as an unsigned and scopes as a signed word of 32 bits; a
descriptor whose flags or scope do not fit is refused in either layout. An
unknown lifetime is written as `-1` and one without end as the largest signed
word of 64 bits.
-/

namespace InterfaceAddress

namespace Wire

/-- Why a descriptor is not encoded. -/
inductive EncodeError where
  | flagsOutOfRange (flags : Binary64)
  | scopeOutOfRange (scope : Binary64)
deriving DecidableEq

namespace EncodeError

def reason : EncodeError → String
  | flagsOutOfRange _ => "FlagsOutOfRange"
  | scopeOutOfRange _ => "ScopeOutOfRange"

def message : EncodeError → String
  | flagsOutOfRange flags => "Flags " ++ flags.text ++ " do not fit in uint32"
  | scopeOutOfRange scope => "Scope " ++ scope.text ++ " does not fit in int32"

end EncodeError

def unknownWord : Int := -1

def permanentWord : Int := 0x7fffffffffffffff

def lifetimeWord : Lifetime → Int
  | .unknown => unknownWord
  | .permanent => permanentWord
  | .instant time => time.truncate?.getD 0

/-- Flags that fit the unsigned word. -/
def flagsWord? (flags : Binary64) : Option Nat :=
  match flags.toInt? with
  | some (.ofNat value) => if value ≤ 0xffffffff then some value else none
  | _ => none

/-- A scope that fits the signed word. -/
def scopeWord? (scope : Binary64) : Option Int :=
  scope.toInt?.filter fun value => -0x80000000 ≤ value ∧ value ≤ 0x7fffffff

/-- The numbers of a record, in the order of the fields. -/
structure Contents where
  address : List UInt8
  prefixLength : Nat
  flags : Nat
  scope : Int
  deprecation : Int
  expiration : Int
deriving DecidableEq

namespace Contents

def writeField (contents : Contents) : Field → List UInt8
  | .address => UInt8.ofNat contents.address.length :: contents.address
  | .prefixLength => writeNat 1 contents.prefixLength
  | .flags => writeNat 4 contents.flags
  | .scope => writeInt 4 contents.scope
  | .deprecation => writeInt 8 contents.deprecation
  | .expiration => writeInt 8 contents.expiration

def write (contents : Contents) (layout : Layout) : List UInt8 :=
  layout.fields.flatMap contents.writeField

end Contents

end Wire

/-- The numbers that are written for a descriptor. -/
def Descriptor.contents (descriptor : Descriptor) : Except Wire.EncodeError Wire.Contents := do
  let some flags := Wire.flagsWord? descriptor.storedFlags
    | throw (.flagsOutOfRange descriptor.storedFlags)
  let some scope := Wire.scopeWord? descriptor.scope
    | throw (.scopeOutOfRange descriptor.scope)
  return {
    address := descriptor.address.octets
    prefixLength := (descriptor.prefixLength.truncate?.getD 0).toNat
    flags
    scope
    deprecation := Wire.lifetimeWord descriptor.lifetimes.deprecation
    expiration := Wire.lifetimeWord descriptor.lifetimes.expiration }

def Descriptor.encode (descriptor : Descriptor) (layout : Wire.Layout) :
    Except Wire.EncodeError (List UInt8) := do
  return (← descriptor.contents).write layout

end InterfaceAddress
