import InterfaceAddress.Number.Shortest
import InterfaceAddress.Text.Blank
import InterfaceAddress.Text.Digits

/-! # Numerals

The text of a number is its shortest decimal, positional from a millionth up to
twenty-one places before the point and with an exponent outside that range. The
sign of zero is not written. Reading accepts the same spellings, any other
decimal with an optional exponent, and whole numbers in base two, eight or
sixteen behind `0b`, `0o` or `0x`.
-/

namespace InterfaceAddress

namespace Numeral

/-- The digits of a natural number without the zeros at its end. -/
def significantDigits (value : Nat) : List Char :=
  ((Nat.toDigits 10 value).reverse.dropWhile (· = '0')).reverse

/-- Lay out digits whose first one stands at `place`. -/
def layout (digits : List Char) (place : Int) : List Char :=
  if place ≤ -6 ∨ 21 < place then
    let exponent := place - 1
    let sign := if exponent < 0 then '-' else '+'
    let fraction := if digits.length = 1 then [] else '.' :: digits.drop 1
    digits.take 1 ++ fraction ++ ['e', sign] ++ Nat.toDigits 10 exponent.natAbs
  else if place ≤ 0 then '0' :: '.' :: List.replicate (-place).toNat '0' ++ digits
  else if digits.length ≤ place then digits ++ List.replicate (place.toNat - digits.length) '0'
  else digits.take place.toNat ++ '.' :: digits.drop place.toNat

/-- The text of a magnitude. A whole number below `2 ^ 53` is its own shortest decimal. -/
def ofMagnitude (magnitude : Magnitude) : List Char :=
  if magnitude.IsWhole ∧ magnitude.whole ≤ Binary64.maxSafeInteger.toNat then Nat.toDigits 10 magnitude.whole
  else
    let decimal := magnitude.shortest
    layout (significantDigits decimal.coefficient) decimal.place

/-- The text of a number. -/
def ofBinary64 : Binary64 → List Char
  | .nan => "NaN".toList
  | .infinity negative => (if negative then "-Infinity" else "Infinity").toList
  | .finite negative magnitude =>
    if negative ∧ magnitude.units ≠ 0 then '-' :: ofMagnitude magnitude else ofMagnitude magnitude

/-- The exponent written after a decimal; nothing written is zero. -/
def exponent? : List Char → Option Int
  | [] => some 0
  | mark :: rest =>
    if mark = 'e' ∨ mark = 'E' then
      match rest with
      | '-' :: digits => (Text.ofDecimalDigits? digits).map fun value => -value
      | '+' :: digits => (Text.ofDecimalDigits? digits).map Int.ofNat
      | digits => (Text.ofDecimalDigits? digits).map Int.ofNat
    else none

/-- A decimal without a sign: digits, at most one point among them, and an exponent. -/
def decimal? (text : List Char) : Option Decimal := do
  let (whole, rest) := text.span Char.isDigit
  let (fraction, rest) := match rest with
    | '.' :: rest => rest.span Char.isDigit
    | rest => ([], rest)
  let coefficient ← Text.ofDecimalDigits? (whole ++ fraction)
  let exponent ← exponent? rest
  return ⟨coefficient, exponent - fraction.length⟩

/-- A number without a sign, infinite or decimal. -/
def unsigned? (negative : Bool) (text : List Char) : Option Binary64 :=
  if text = "Infinity".toList then some (.infinity negative)
  else (decimal? text).map (·.toBinary64 negative)

/-- The whole number that digits in a base spell. -/
def inBase? (base : Nat) (digits : List Char) : Option Nat :=
  if digits = [] then none
  else digits.foldlM (fun value char => do
    let digit ← Text.hexDigit? char
    if digit < base then some (base * value + digit) else none) 0

/-- The number that a text spells. Blanks around it are dropped, an empty text is zero and a text
that spells no number is not-a-number. -/
def toBinary64 (text : List Char) : Binary64 :=
  match Text.trim text with
  | [] => 0
  | '-' :: rest => (unsigned? true rest).getD .nan
  | '+' :: rest => (unsigned? false rest).getD .nan
  | text@('0' :: mark :: digits) =>
    let base := match mark with
      | 'b' | 'B' => some 2
      | 'o' | 'O' => some 8
      | 'x' | 'X' => some 16
      | _ => none
    match base with
    | some base => ((inBase? base digits).map Binary64.ofNat).getD .nan
    | none => (unsigned? false text).getD .nan
  | text => (unsigned? false text).getD .nan

end Numeral

/-- The text of a number. -/
def Binary64.text (number : Binary64) : String := String.ofList (Numeral.ofBinary64 number)

end InterfaceAddress
