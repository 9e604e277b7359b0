import InterfaceAddress.Number.Binary64

/-! # Numeric addresses

An address is four or sixteen octets in network order. An address of sixteen
octets whose first twelve are the mapped header embeds an address of four; it
collapses to the embedded one where the caller asks for that, and otherwise
stays an address of its own.
-/

namespace InterfaceAddress

inductive Family where
  | v4
  | v6
deriving DecidableEq

namespace Family

def version : Family → Nat
  | v4 => 4
  | v6 => 6

/-- How many octets an address has. -/
def octetCount : Family → Nat
  | v4 => 4
  | v6 => 16

/-- How many bits an address has, the longest prefix. -/
def width (family : Family) : Nat := 8 * family.octetCount

/-- The family whose addresses have this many octets. -/
def ofOctetCount? (count : Nat) : Option Family :=
  if count = 4 then some v4 else if count = 16 then some v6 else none

end Family

/-- A numeric address in network order. -/
structure Address where
  octets : List UInt8
  length_octets : octets.length = 4 ∨ octets.length = 16
deriving DecidableEq

namespace Address

/-- The family, told by the number of octets. -/
def family (address : Address) : Family := if address.octets.length = 4 then .v4 else .v6

def isV4 (address : Address) : Bool := address.family = .v4

def isV6 (address : Address) : Bool := address.family = .v6

/-- The octet at a position, zero past the end. -/
def octet (address : Address) (position : Nat) : UInt8 := address.octets.getD position 0

/-- The octet at a numeric position, zero where the number is no position. -/
def octetAt (address : Address) (position : Binary64) : UInt8 :=
  match position.toInt? with
  | some (.ofNat position) => address.octet position
  | _ => 0

/-! ### Embedded addresses -/

/-- The first twelve octets of an address that embeds one of four octets. -/
def mappedHeader : List UInt8 := List.replicate 10 0 ++ [0xff, 0xff]

/-- Whether the address embeds one of four octets. -/
def isMapped (address : Address) : Bool :=
  address.octets.length = 16 && address.octets.take 12 = mappedHeader

/-- The embedded address if there is one, else the address itself. -/
def collapse (address : Address) : Address :=
  if mapped : address.isMapped then
    ⟨address.octets.drop 12, by
      simp only [isMapped, Bool.and_eq_true, decide_eq_true_eq] at mapped
      simp [mapped.1]⟩
  else address

/-- The address with these octets, collapsed on request; there is none for other lengths. -/
def ofOctets? (octets : List UInt8) (collapsing : Bool) : Option Address :=
  if length_octets : octets.length = 4 ∨ octets.length = 16 then
    let address : Address := ⟨octets, length_octets⟩
    some (if collapsing then address.collapse else address)
  else none

/-! ### Hash -/

/-- The polynomial in 31 over the octets, modulo `2 ^ 32`. -/
def hash (address : Address) : BitVec 32 :=
  address.octets.foldl (fun hash octet => 31 * hash + BitVec.ofNat 32 octet.toNat) 1

end Address

/-- The octet that a number denotes: its integer part modulo 256. -/
def Binary64.toOctet (number : Binary64) : UInt8 := UInt8.ofNat (number.toBits32.toNat % 256)

end InterfaceAddress
