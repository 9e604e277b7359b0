/-! # Big-endian fields

Fixed-width numbers in network order. Each reader takes its octets off the front
of a list and leaves the rest, and undoes the writer of the same width in front
of any rest.
-/

namespace InterfaceAddress.Wire

/-- The octets of a number, the most significant first; higher digits are dropped. -/
def writeNat : Nat → Nat → List UInt8
  | 0, _ => []
  | size + 1, value => UInt8.ofNat (value >>> (8 * size)) :: writeNat size value

/-- The number that octets denote, the most significant first. -/
def natOfOctets (octets : List UInt8) : Nat :=
  octets.foldl (fun value octet => 256 * value + octet.toNat) 0

/-- How many numbers this many octets can denote. -/
def capacity (size : Nat) : Nat := 1 <<< (8 * size)

/-- The octets of a signed number in two's complement. -/
def writeInt (size : Nat) (value : Int) : List UInt8 :=
  writeNat size (value % capacity size).toNat

/-- The signed number that octets denote in two's complement. -/
def intOfOctets (octets : List UInt8) : Int :=
  let value := natOfOctets octets
  if 2 * value < capacity octets.length then value else (value : Int) - capacity octets.length

/-- The first octets of a list and the rest, if there are that many. -/
def take? (size : Nat) (octets : List UInt8) : Option (List UInt8 × List UInt8) :=
  if size ≤ octets.length then some (octets.take size, octets.drop size) else none

def readNat? (size : Nat) (octets : List UInt8) : Option (Nat × List UInt8) :=
  (take? size octets).map fun (field, rest) => (natOfOctets field, rest)

def readInt? (size : Nat) (octets : List UInt8) : Option (Int × List UInt8) :=
  (take? size octets).map fun (field, rest) => (intOfOctets field, rest)

end InterfaceAddress.Wire
