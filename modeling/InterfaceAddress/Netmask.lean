import InterfaceAddress.Address.Reader

/-! # Netmasks

A netmask is an address whose bits are ones followed by zeros; the number of
ones is a prefix length.
-/

namespace InterfaceAddress.Netmask

/-- The bits of an octet, the most significant first. -/
def octetBits (octet : UInt8) : List Bool :=
  (List.range 8).map fun position => octet.toNat.testBit (7 - position)

/-- The bits of an address in network order. -/
def bits (address : Address) : List Bool := address.octets.flatMap octetBits

/-- How many ones a list of bits starts with, if only zeros follow. -/
def countOnes? (bits : List Bool) : Option Nat :=
  let (ones, rest) := bits.span id
  if rest.contains true then none else some ones.length

/-- The prefix length of a netmask in text, if its bits are ones followed by zeros. -/
def prefixLength? (text : String) : Option Nat :=
  (Address.read? text false).bind fun mask => countOnes? (bits mask)

end InterfaceAddress.Netmask
