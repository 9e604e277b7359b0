import InterfaceAddress.Address.Basic

/-! # Address text

Four octets are written as a dotted quad. Sixteen octets are written as eight
groups of lower-case hexadecimal digits without leading zeros, where the
leftmost of the longest runs of at least two zero groups becomes a double
colon. An embedded address is written as a dotted quad behind its header.
-/

namespace InterfaceAddress.Address

/-- Decimal octets separated by points. -/
def writeQuad (octets : List UInt8) : List Char :=
  List.intercalate ['.'] (octets.map fun octet => Nat.toDigits 10 octet.toNat)

/-- The 16-bit groups of a list of octets. -/
def groups : List UInt8 → List Nat
  | high :: low :: rest => (256 * high.toNat + low.toNat) :: groups rest
  | _ => []

/-- Groups in hexadecimal separated by colons. -/
def writeGroups (groups : List Nat) : List Char :=
  List.intercalate [':'] (groups.map (Nat.toDigits 16))

/-- How many zero groups a list starts with. -/
def leadingZeros (groups : List Nat) : Nat := (groups.takeWhile (· = 0)).length

/-- Start and length of the leftmost of the longest runs of zero groups. -/
def longestZeroRun : List Nat → Nat × Nat
  | [] => (0, 0)
  | group :: rest =>
    let here := leadingZeros (group :: rest)
    let (start, length) := longestZeroRun rest
    if length ≤ here then (0, here) else (start + 1, length)

/-- Groups with the longest run of zeros elided if it has at least two groups. -/
def writeElided (groups : List Nat) : List Char :=
  let (start, length) := longestZeroRun groups
  if length < 2 then writeGroups groups
  else writeGroups (groups.take start) ++ "::".toList ++ writeGroups (groups.drop (start + length))

def write (address : Address) : List Char :=
  match address.family with
  | .v4 => writeQuad address.octets
  | .v6 =>
    if address.isMapped then "::ffff:".toList ++ writeQuad (address.octets.drop 12)
    else writeElided (groups address.octets)

def text (address : Address) : String := String.ofList address.write

end InterfaceAddress.Address
