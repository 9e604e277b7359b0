import InterfaceAddress.Number.Binary64

/-! # Address flags

The flags of an address are the bits of a 32-bit word; their positions are those
of the kernel, so that words pass through unchanged.
-/

namespace InterfaceAddress

/-- The flags with a name, in the order of their bits. -/
inductive Flag where
  | temporary
  | noDuplicateDetection
  | optimistic
  | duplicateDetected
  | homeAddress
  | deprecated
  | tentative
  | permanent
  | managesTemporary
  | noPrefixRoute
  | multicastAutojoin
  | stablePrivacy
deriving DecidableEq

namespace Flag

def all : List Flag :=
  [temporary, noDuplicateDetection, optimistic, duplicateDetected, homeAddress, deprecated,
   tentative, permanent, managesTemporary, noPrefixRoute, multicastAutojoin, stablePrivacy]

def bit : Flag → Nat
  | temporary => 0
  | noDuplicateDetection => 1
  | optimistic => 2
  | duplicateDetected => 3
  | homeAddress => 4
  | deprecated => 5
  | tentative => 6
  | permanent => 7
  | managesTemporary => 8
  | noPrefixRoute => 9
  | multicastAutojoin => 10
  | stablePrivacy => 11

/-- The word with this flag alone. -/
def mask (flag : Flag) : BitVec 32 := BitVec.twoPow 32 flag.bit

/-- The name used by the kernel. -/
def name : Flag → String
  | temporary => "TEMPORARY"
  | noDuplicateDetection => "NODAD"
  | optimistic => "OPTIMISTIC"
  | duplicateDetected => "DADFAILED"
  | homeAddress => "HOMEADDRESS"
  | deprecated => "DEPRECATED"
  | tentative => "TENTATIVE"
  | permanent => "PERMANENT"
  | managesTemporary => "MANAGETEMPADDR"
  | noPrefixRoute => "NOPREFIXROUTE"
  | multicastAutojoin => "MCAUTOJOIN"
  | stablePrivacy => "STABLE_PRIVACY"

def isIn (flag : Flag) (word : BitVec 32) : Bool := word.getLsbD flag.bit

/-- The word with the flag set or cleared. -/
def put (flag : Flag) (word : BitVec 32) (present : Bool) : BitVec 32 :=
  if present then word ||| flag.mask else word &&& ~~~flag.mask

end Flag

end InterfaceAddress
