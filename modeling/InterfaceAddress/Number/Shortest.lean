import InterfaceAddress.Number.Binary64

/-! # The shortest decimal that reads back

Many decimals round to one double-precision number. The one that is written
has the fewest digits, and among those it is the nearest to the number; of two
equally near ones the even coefficient wins. For each digit count only the two
neighbours on that decimal grid can qualify, so both are tried in exact
arithmetic.
-/

namespace InterfaceAddress

/-- The number `coefficient * 10 ^ exponent`. -/
structure Decimal where
  coefficient : Nat
  exponent : Int
deriving DecidableEq

/-- How many decimal digits a natural number has. -/
def decimalLength (value : Nat) : Nat := (Nat.toDigits 10 value).length

namespace Decimal

/-- The position of the leading digit: one for `1` to `9`, zero for tenths. -/
def place (decimal : Decimal) : Int := decimalLength decimal.coefficient + decimal.exponent

/-- The decimal as a quotient of natural numbers. -/
def ratio (decimal : Decimal) : Nat × Nat :=
  (decimal.coefficient * Nat.pow 10 decimal.exponent.toNat, Nat.pow 10 (-decimal.exponent).toNat)

/-- The double-precision number nearest to a decimal with a sign. A decimal far outside the
finite range is settled by the position of its leading digit. -/
def toBinary64 (negative : Bool) (decimal : Decimal) : Binary64 :=
  if decimal.coefficient = 0 ∨ decimal.place < -330 then .finite negative .zero
  else if 310 < decimal.place then .infinity negative
  else
    let (numerator, denominator) := decimal.ratio
    .ofUnits negative (numerator * Magnitude.unitsPerOne) denominator

end Decimal

namespace Magnitude

/-- The ends of the interval that rounds to a magnitude, in quarters of a unit. Just above a
power of two the numbers below are twice as dense. -/
def quarterInterval (magnitude : Magnitude) : Nat × Nat :=
  let ⟨significand, shift, _⟩ := magnitude
  let below := if significand = 0x10000000000000 ∧ shift ≠ 0 then 1 else 2
  ((4 * significand - below) <<< shift, (4 * significand + 2) <<< shift)

/-- Whether a decimal rounds to the magnitude. The ends count for an even significand. -/
def IsReadFrom (magnitude : Magnitude) (decimal : Decimal) : Prop :=
  let (low, high) := magnitude.quarterInterval
  let (numerator, denominator) := decimal.ratio
  let value := 4 * unitsPerOne * numerator
  if magnitude.significand % 2 = 0 then low * denominator ≤ value ∧ value ≤ high * denominator
  else low * denominator < value ∧ value < high * denominator

instance (magnitude : Magnitude) (decimal : Decimal) :
    Decidable (magnitude.IsReadFrom decimal) := by
  unfold IsReadFrom; infer_instance

/-- The position of the leading decimal digit of a positive magnitude. The shift by `400` places
makes the smallest one exceed one. -/
def leadingPlace (magnitude : Magnitude) : Int :=
  decimalLength (magnitude.units * Nat.pow 10 400 / unitsPerOne) - 400

/-- The decimal with this many digits that reads back, if one does. -/
def decimalWith? (magnitude : Magnitude) (digits : Nat) : Option Decimal :=
  let exponent := magnitude.leadingPlace - digits
  let numerator := magnitude.units * Nat.pow 10 (-exponent).toNat
  let denominator := unitsPerOne * Nat.pow 10 exponent.toNat
  let below : Decimal := ⟨numerator / denominator, exponent⟩
  let above : Decimal := ⟨numerator / denominator + 1, exponent⟩
  if magnitude.IsReadFrom below then
    if magnitude.IsReadFrom above then some ⟨roundHalfEven numerator denominator, exponent⟩
    else some below
  else if magnitude.IsReadFrom above then some above
  else none

/-- The decimal with the fewest digits that reads back. Seventeen digits always suffice. -/
def shortest (magnitude : Magnitude) : Decimal :=
  ((List.range' 1 17).findSome? magnitude.decimalWith?).getD ⟨0, 0⟩

end Magnitude

end InterfaceAddress
