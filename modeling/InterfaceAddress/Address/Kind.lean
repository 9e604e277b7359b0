import InterfaceAddress.Address.Basic

/-! # Kinds of addresses

Each test reads the leading octets of an address. A test for one family is
never true of the other.
-/

namespace InterfaceAddress.Address

/-- The zero address of either family. -/
def isUnspecified (address : Address) : Bool := address.octets.all (· = 0)

/-- `127.0.0.0/8` or `::1`. -/
def isLoopback (address : Address) : Bool :=
  match address.family with
  | .v4 => address.octet 0 = 127
  | .v6 => (address.octets.take 15).all (· = 0) && address.octet 15 = 1

/-- `169.254.0.0/16` or `fe80::/10`. -/
def isLinkLocal (address : Address) : Bool :=
  match address.family with
  | .v4 => address.octet 0 = 169 && address.octet 1 = 254
  | .v6 => address.octet 0 = 0xfe && address.octet 1 &&& 0xc0 = 0x80

/-- `fec0::/10`. -/
def isSiteLocal (address : Address) : Bool :=
  match address.family with
  | .v4 => false
  | .v6 => address.octet 0 = 0xfe && address.octet 1 &&& 0xc0 = 0xc0

/-- `224.0.0.0/4` or `ff00::/8`. -/
def isMulticast (address : Address) : Bool :=
  match address.family with
  | .v4 => address.octet 0 &&& 0xf0 = 0xe0
  | .v6 => address.octet 0 = 0xff

/-- `fc00::/7`. -/
def isUniqueLocal (address : Address) : Bool :=
  match address.family with
  | .v4 => false
  | .v6 => address.octet 0 &&& 0xfe = 0xfc

end InterfaceAddress.Address
