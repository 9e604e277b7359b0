import InterfaceAddress.Flag

/-! # Lifetimes

An address may be deprecated and may expire at an instant of a monotonic clock,
counted in milliseconds. Either both times are known or neither is, and an
address is not deprecated after it has expired. The flags for deprecation and
permanence are derived from the lifetimes whenever the flags are read, whatever
was stored.
-/

namespace InterfaceAddress

/-- When something ends. -/
inductive Lifetime where
  | unknown
  | permanent
  | instant (time : Binary64)
deriving DecidableEq

namespace Lifetime

/-- The number that stands for an unknown lifetime. -/
def unknownNumber : Binary64 := -1

/-- The number that stands for a lifetime without end. -/
def permanentNumber : Binary64 := .infinity false

/-- The lifetime that a number stands for. -/
def ofNumber (number : Binary64) : Lifetime :=
  if number.same unknownNumber then unknown
  else if number.same permanentNumber then permanent
  else instant number

/-- The number that stands for a lifetime. -/
def toNumber : Lifetime → Binary64
  | unknown => unknownNumber
  | permanent => permanentNumber
  | instant time => time

def isUnknown : Lifetime → Bool
  | unknown => true
  | _ => false

def isPermanent : Lifetime → Bool
  | permanent => true
  | _ => false

def isInstant : Lifetime → Bool
  | instant _ => true
  | _ => false

/-- An instant must be a whole number of milliseconds that no other number of milliseconds
rounds to, and not negative. -/
def isAcceptable : Lifetime → Bool
  | instant time => (time.toSafeInt?.map fun value => decide (0 ≤ value)).getD false
  | _ => true

/-- Whether the end has come. An unknown end never comes. -/
def reached (lifetime : Lifetime) (now : Binary64) : Bool :=
  match lifetime with
  | unknown => false
  | lifetime => lifetime.toNumber.le now

end Lifetime

/-- The two ends of an address. -/
inductive LifetimeField where
  | deprecation
  | expiration
deriving DecidableEq

/-- The name of the field in messages. -/
def LifetimeField.label : LifetimeField → String
  | deprecation => "deprecationTime"
  | expiration => "expirationTime"

/-- When an address is deprecated and when it expires. -/
structure Lifetimes where
  deprecation : Lifetime
  expiration : Lifetime
deriving DecidableEq

/-- How a pair of lifetimes can be wrong. -/
inductive LifetimeViolation where
  | notTimestamp (field : LifetimeField) (lifetime : Lifetime)
  | oneUnknown
  | deprecatedAfterExpiration (lifetimes : Lifetimes)
deriving DecidableEq

namespace Lifetimes

/-- The first rule that a pair of lifetimes breaks. -/
def violation? (lifetimes : Lifetimes) : Option LifetimeViolation :=
  let ⟨deprecation, expiration⟩ := lifetimes
  if !deprecation.isAcceptable then some (.notTimestamp .deprecation deprecation)
  else if !expiration.isAcceptable then some (.notTimestamp .expiration expiration)
  else if deprecation.isUnknown != expiration.isUnknown then some .oneUnknown
  else if !deprecation.isUnknown && expiration.toNumber.lt deprecation.toNumber then
    some (.deprecatedAfterExpiration lifetimes)
  else none

/-- The word of flags at an instant, derived from a stored word. -/
def deriveFlags (lifetimes : Lifetimes) (now : Binary64) (stored : BitVec 32) : BitVec 32 :=
  let ⟨deprecation, expiration⟩ := lifetimes
  let word :=
    if deprecation.isUnknown then stored
    else Flag.deprecated.put stored (deprecation.reached now)
  if deprecation.isPermanent && expiration.isPermanent then Flag.permanent.put word true
  else if deprecation.isInstant || expiration.isInstant then Flag.permanent.put word false
  else word

/-- The flags at an instant. Without lifetimes they are the stored number, whatever it is;
otherwise they are a 32-bit word. -/
def effectiveFlags (lifetimes : Lifetimes) (stored now : Binary64) : Binary64 :=
  if lifetimes.deprecation.isUnknown && lifetimes.expiration.isUnknown then stored
  else .ofNat (lifetimes.deriveFlags now stored.toBits32).toNat

end Lifetimes

end InterfaceAddress
