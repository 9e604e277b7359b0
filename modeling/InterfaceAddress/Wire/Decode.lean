import InterfaceAddress.Wire.Encode

/-! # Decoding records

A strict reader takes a record of exactly the legacy or the current length. A
compatible reader takes the four legacy fields off the front of a record and
ignores what follows. Embedded addresses are never collapsed, so that a decoded
descriptor is encoded to the octets it came from.
-/

namespace InterfaceAddress.Wire

inductive DecodeReason where
  | truncated
  | trailingData
  | badAddressLength
  | timestampOutOfRange
  | invalidDescriptor
deriving DecidableEq

def DecodeReason.name : DecodeReason → String
  | truncated => "Truncated"
  | trailingData => "TrailingData"
  | badAddressLength => "BadAddressLength"
  | timestampOutOfRange => "TimestampOutOfRange"
  | invalidDescriptor => "InvalidDescriptor"

/-- Why a record is not decoded. -/
inductive DecodeError where
  | empty
  | badAddressLength (length : Nat)
  | tooShort (least length : Nat)
  | betweenLayouts (legacy current length : Nat)
  | trailing (count : Nat)
  | timestampOutOfRange (field : LifetimeField) (word : Int)
  | invalid (cause : Rejection)
deriving DecidableEq

namespace DecodeError

def reason : DecodeError → DecodeReason
  | empty => .truncated
  | badAddressLength _ => .badAddressLength
  | tooShort _ _ => .truncated
  | betweenLayouts _ _ _ => .truncated
  | trailing _ => .trailingData
  | timestampOutOfRange _ _ => .timestampOutOfRange
  | invalid _ => .invalidDescriptor

def message : DecodeError → String
  | empty => "Empty record"
  | badAddressLength length => "Address length " ++ length.repr ++ " is neither 4 nor 16"
  | tooShort least length => "Expected at least " ++ least.repr ++ " bytes, got " ++ length.repr
  | betweenLayouts legacy current length =>
    "Expected " ++ legacy.repr ++ " or " ++ current.repr ++ " bytes, got " ++ length.repr
  | trailing count => count.repr ++ " unexpected trailing bytes"
  | timestampOutOfRange field word =>
    field.label ++ " " ++ word.repr ++ " is not representable"
  | invalid cause => "Decoded fields are invalid: " ++ cause.message

/-- The rejection of the decoded fields, where that is the error. -/
def cause? : DecodeError → Option Rejection
  | invalid cause => some cause
  | _ => none

end DecodeError

/-- The layout of a record of this length. -/
def resolveLayout (length addressLength : Nat) (compatible : Bool) : Except DecodeError Layout :=
  let legacy := Layout.legacy.length addressLength
  let current := Layout.current.length addressLength
  if length < legacy then .error (.tooShort legacy length)
  else if compatible || length = legacy then .ok .legacy
  else if length = current then .ok .current
  else if length < current then .error (.betweenLayouts legacy current length)
  else .error (.trailing (length - current))

/-- The lifetime of a word; a word that is no double-precision number of its own has none. -/
def lifetimeOfWord (field : LifetimeField) (word : Int) : Except DecodeError Lifetime :=
  if word = unknownWord then .ok .unknown
  else if word = permanentWord then .ok .permanent
  else if Binary64.maxSafeInteger.natAbs < word.natAbs then .error (.timestampOutOfRange field word)
  else .ok (.instant (.ofInt word))

/-- The numbers of a record after its first octet, if it is long enough. Lifetimes that the layout
does not have are unknown. -/
def Contents.read? (layout : Layout) (addressLength : Nat) (octets : List UInt8) :
    Option Contents := do
  let (address, octets) ← take? addressLength octets
  let (prefixLength, octets) ← readNat? 1 octets
  let (flags, octets) ← readNat? 4 octets
  let (scope, octets) ← readInt? 4 octets
  match layout with
  | .legacy => return ⟨address, prefixLength, flags, scope, unknownWord, unknownWord⟩
  | .current =>
    let (deprecation, octets) ← readInt? 8 octets
    let (expiration, _) ← readInt? 8 octets
    return ⟨address, prefixLength, flags, scope, deprecation, expiration⟩

/-- The draft that the numbers of a record describe. -/
def Contents.toDraft (contents : Contents) : Except DecodeError Draft := do
  let deprecation ← lifetimeOfWord .deprecation contents.deprecation
  let expiration ← lifetimeOfWord .expiration contents.expiration
  return {
    address := match Address.ofOctets? contents.address false with
      | some address => .address address
      | none => .missing
    prefixLength := some (.ofNat contents.prefixLength)
    state := {
      flags := some (.ofNat contents.flags)
      scope := some (.ofInt contents.scope)
      deprecation := some deprecation
      expiration := some expiration } }

/-- The layout of a record and the draft it describes. -/
def readDraft (octets : List UInt8) (compatible : Bool) : Except DecodeError (Layout × Draft) :=
  match octets with
  | [] => .error .empty
  | first :: rest => do
    let some family := Family.ofOctetCount? first.toNat
      | throw (.badAddressLength first.toNat)
    let layout ← resolveLayout octets.length family.octetCount compatible
    let some contents := Contents.read? layout family.octetCount rest
      | throw (.tooShort (layout.length family.octetCount) octets.length)
    return (layout, ← contents.toDraft)

/-- The descriptor of a record and the layout it was read in. -/
def decode (octets : List UInt8) (compatible : Bool) :
    Except DecodeError (Descriptor × Layout) := do
  let (layout, draft) ← readDraft octets compatible
  let descriptor ← (draft.build false).mapError .invalid
  return (descriptor, layout)

end InterfaceAddress.Wire
