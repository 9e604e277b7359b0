import InterfaceAddress.Descriptor.Notation
import InterfaceAddress.Netmask

/-! # Interface records

The operating system reports an address as a record of unknown shape. Only its
address is required, which is text. The prefix length comes from the text in
slash notation where that ends in digits, else from the netmask; a malformed
member counts as not given, and a prefix length that is not found is left for
the rules of a draft to reject.
-/

namespace InterfaceAddress

/-- What is read of a record. -/
structure InterfaceRecord where
  address : String
  netmask : Option String
  cidr : Option String
deriving DecidableEq

namespace InterfaceRecord

/-- The record that a value is; there is none without an address. -/
def ofValue? (value : Value) : Option InterfaceRecord := do
  let address ← (value.member "address").asText?
  return ⟨address, (value.member "netmask").asText?, (value.member "cidr").asText?⟩

/-- The prefix length behind the last slash of a text. -/
def prefixBehindSlash? (text : String) : Option Binary64 :=
  let reversed := text.toList.reverse
  if reversed.contains '/' then
    (Text.ofDecimalDigits? (reversed.takeWhile (· ≠ '/')).reverse).map Binary64.ofNat
  else none

def prefixLength (record : InterfaceRecord) : Binary64 :=
  match record.cidr.bind prefixBehindSlash? with
  | some length => length
  | none =>
    ((record.netmask.bind Netmask.prefixLength?).map Binary64.ofNat).getD Draft.unknownPrefix

def toDraft (record : InterfaceRecord) (state : DraftState) : Draft :=
  ⟨.text record.address, record.prefixLength, state⟩

end InterfaceRecord

end InterfaceAddress
