import InterfaceAddress.Address.Basic
import InterfaceAddress.Text.Blank
import InterfaceAddress.Text.Digits

/-! # Reading address text

An address of four octets is a dotted quad of decimal octets without leading
zeros. An address of sixteen is eight groups of hexadecimal digits separated by
colons; the last two groups may be a dotted quad, and one double colon stands
for one or more groups of zero. Brackets around the address and a zone behind a
percent sign are dropped. Host names are never resolved.
-/

namespace InterfaceAddress.Address

/-- A decimal octet without leading zeros. -/
def readOctet? (text : List Char) : Option UInt8 := do
  let value ← Text.ofDecimalDigits? text
  if value ≤ 255 ∧ (text.head? = some '0' → text.length = 1) then some (UInt8.ofNat value)
  else none

/-- Four decimal octets separated by points. -/
def readQuad? (text : List Char) : Option (List UInt8) :=
  let parts := text.splitOn '.'
  if parts.length = 4 then parts.mapM readOctet? else none

/-- One to four hexadecimal digits, as two octets. -/
def readGroup? (text : List Char) : Option (List UInt8) := do
  if text.length = 0 ∨ 4 < text.length then none
  let value ← Text.ofHexDigits? text
  return [UInt8.ofNat (value / 256), UInt8.ofNat (value % 256)]

/-- Groups one after another; the last may be a dotted quad where that is allowed. -/
def readGroups? (quadAllowed : Bool) : List (List Char) → Option (List UInt8)
  | [] => some []
  | [last] => if quadAllowed && last.contains '.' then readQuad? last else readGroup? last
  | group :: rest => do return (← readGroup? group) ++ (← readGroups? quadAllowed rest)

/-- Groups separated by colons; an empty text has none. -/
def readSide? (quadAllowed : Bool) (text : List Char) : Option (List UInt8) :=
  readGroups? quadAllowed (if text = [] then [] else text.splitOn ':')

/-- The text before and after the first double colon. -/
def splitAtElision? : List Char → Option (List Char × List Char)
  | [] => none
  | ':' :: ':' :: rest => some ([], rest)
  | char :: rest => (splitAtElision? rest).map fun (left, right) => (char :: left, right)

/-- Sixteen octets written in groups. -/
def readGroupText? (text : List Char) : Option (List UInt8) :=
  match splitAtElision? text with
  | none => (readSide? true text).filter (·.length = 16)
  | some (leftText, rightText) => do
    if (splitAtElision? rightText).isSome then none
    let left ← readSide? false leftText
    let right ← readSide? true rightText
    if 14 < left.length + right.length then none
    return left ++ List.replicate (16 - (left.length + right.length)) 0 ++ right

/-- The text inside one pair of enclosing brackets. -/
def dropBrackets : List Char → List Char
  | text@('[' :: rest) => if rest.getLast? = some ']' then rest.dropLast else text
  | text => text

/-- The text before a zone. -/
def dropZone (text : List Char) : List Char := text.takeWhile (· ≠ '%')

/-- The address that a text without surrounding blanks denotes. -/
def readTrimmed? (text : List Char) (collapsing : Bool) : Option Address :=
  if text.contains ':' then do
    ofOctets? (← readGroupText? (dropZone (dropBrackets text))) collapsing
  else do ofOctets? (← readQuad? text) collapsing

/-- The address that a text denotes, collapsed on request. -/
def read? (text : String) (collapsing : Bool) : Option Address :=
  readTrimmed? (Text.trim text.toList) collapsing

end InterfaceAddress.Address
