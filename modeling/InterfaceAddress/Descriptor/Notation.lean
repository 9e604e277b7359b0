import InterfaceAddress.Descriptor.Basic
import InterfaceAddress.Json.Writer

/-! # Written forms of a descriptor

In text a descriptor is its address and its prefix length with a slash between
them. As a value it has six members; an unknown lifetime is null there and one
without end is a word.
-/

namespace InterfaceAddress

namespace Descriptor

/-- Address and prefix length. -/
def text (descriptor : Descriptor) : String :=
  descriptor.address.text ++ "/" ++ descriptor.prefixLength.text

end Descriptor

def Lifetime.toValue : Lifetime → Value
  | unknown => .null
  | permanent => .text "permanent"
  | instant time => .number time

def Descriptor.toValue (descriptor : Descriptor) : Value :=
  .object [
    ("address", .text descriptor.address.text),
    ("prefixLength", .number descriptor.prefixLength),
    ("flags", .number descriptor.storedFlags),
    ("scope", .number descriptor.scope),
    ("deprecationTime", descriptor.lifetimes.deprecation.toValue),
    ("expirationTime", descriptor.lifetimes.expiration.toValue)]

namespace Draft

/-- The number that stands for a prefix length that was not given or could not be read. -/
def unknownPrefix : Binary64 := -1

/-- The prefix length that decimal digits spell; anything else is an unknown one. -/
def readPrefix (digits : List Char) : Binary64 :=
  ((Text.ofDecimalDigits? digits).map Binary64.ofNat).getD unknownPrefix

/-- The draft written in a text: an address up to the first slash and a prefix length behind it.
Whether the prefix length can be read matters only once the address is known to be numeric. -/
def ofText (text : String) (state : DraftState) : Draft :=
  let (addressText, rest) := (Text.trim text.toList).span (· ≠ '/')
  { address := if addressText = [] then .missing else .text (String.ofList addressText)
    prefixLength := readPrefix (rest.drop 1)
    state }

end Draft

end InterfaceAddress
