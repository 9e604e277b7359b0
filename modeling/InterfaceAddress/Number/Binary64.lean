/-! # Double-precision numbers

Prefix lengths, flags, scopes and lifetimes are double-precision numbers. A
finite number is a multiple of the least positive one, `2 ^ (-1074)`, so it is
held as a significand and a shift and every question about it is answered in
natural-number arithmetic. The representation is canonical: apart from the two
zeros, numbers of equal value are equal.
-/

namespace InterfaceAddress

/-- Whether a significand and a shift are in canonical form: the significand has at most 53 bits,
and all 53 of them unless the shift is zero. -/
def Magnitude.IsCanonical (significand shift : Nat) : Prop :=
  significand < 0x20000000000000 ∧ shift ≤ 2045 ∧ (shift = 0 ∨ 0x10000000000000 ≤ significand)

instance (significand shift : Nat) : Decidable (Magnitude.IsCanonical significand shift) :=
  inferInstanceAs (Decidable (_ ∧ _))

/-- The size of a finite number: `significand * 2 ^ shift` least positive numbers. -/
structure Magnitude where
  significand : Nat
  shift : Nat
  canonical : Magnitude.IsCanonical significand shift
deriving DecidableEq

namespace Magnitude

/-- One is this power of two of the least positive number. It is never unfolded by accident. -/
@[irreducible] def onePlace : Nat := 1074

/-- How many of the least positive numbers make one. -/
@[irreducible] def unitsPerOne : Nat := 1 <<< onePlace

/-- The size, counted in least positive numbers. -/
def units (magnitude : Magnitude) : Nat := magnitude.significand <<< magnitude.shift

def zero : Magnitude := ⟨0, 0, by decide⟩

/-- The magnitude with these parts, if they are canonical. -/
def ofParts? (significand shift : Nat) : Option Magnitude :=
  if canonical : IsCanonical significand shift then some ⟨significand, shift, canonical⟩ else none

/-- The integer nearest to a quotient; a half goes to the even neighbour. -/
def roundHalfEven (numerator denominator : Nat) : Nat :=
  let quotient := numerator / denominator
  let twice := 2 * (numerator % denominator)
  if twice < denominator ∨ (twice = denominator ∧ quotient % 2 = 0) then quotient
  else quotient + 1

/-- The magnitude nearest to `numerator / denominator` units, or none past the largest. -/
@[irreducible] def nearest? (numerator denominator : Nat) : Option Magnitude :=
  let shift := (numerator / denominator).log2 - 52
  let significand := roundHalfEven numerator (denominator <<< shift)
  if significand = 0x20000000000000 then ofParts? 0x10000000000000 (shift + 1)
  else ofParts? significand shift

/-- The part before the point. -/
def whole (magnitude : Magnitude) : Nat := magnitude.units / unitsPerOne

/-- Whether nothing stands after the point. -/
def IsWhole (magnitude : Magnitude) : Prop := magnitude.units % unitsPerOne = 0

instance (magnitude : Magnitude) : Decidable magnitude.IsWhole :=
  inferInstanceAs (Decidable (_ = _))

end Magnitude

/-- A double-precision number. There is one not-a-number; zero has two signs. -/
inductive Binary64 where
  | nan
  | infinity (negative : Bool)
  | finite (negative : Bool) (magnitude : Magnitude)
deriving DecidableEq

namespace Binary64

/-! ### Construction -/

/-- The number nearest to a quotient of units; past the largest it is infinite. -/
def ofUnits (negative : Bool) (numerator denominator : Nat) : Binary64 :=
  match Magnitude.nearest? numerator denominator with
  | some magnitude => finite negative magnitude
  | none => infinity negative

/-- The number nearest to an integer. -/
def ofInt (value : Int) : Binary64 :=
  ofUnits (value < 0) (value.natAbs * Magnitude.unitsPerOne) 1

/-- The number nearest to a natural number. -/
def ofNat (value : Nat) : Binary64 := ofInt value

def neg : Binary64 → Binary64
  | nan => nan
  | infinity negative => infinity !negative
  | finite negative magnitude => finite (!negative) magnitude

/-! ### Integer value -/

/-- The integer left when the digits after the point are dropped. -/
def truncate? : Binary64 → Option Int
  | finite true magnitude => some (-magnitude.whole)
  | finite false magnitude => some magnitude.whole
  | _ => none

/-- The value, if it is an integer. -/
def toInt? : Binary64 → Option Int
  | number@(finite _ magnitude) => if magnitude.IsWhole then number.truncate? else none
  | _ => none

/-- The largest integer below which every integer is a double-precision number of its own. -/
def maxSafeInteger : Int := 0x1fffffffffffff

/-- The value, if it is an integer that no other integer rounds to. -/
def toSafeInt? (number : Binary64) : Option Int :=
  number.toInt?.filter fun value => value.natAbs ≤ maxSafeInteger.natAbs

/-- The low 32 bits of the integer part; numbers that are not finite give zero. -/
def toBits32 (number : Binary64) : BitVec 32 := BitVec.ofInt 32 (number.truncate?.getD 0)

/-! ### Order and arithmetic -/

/-- A finite number in signed units. -/
def signedUnits (negative : Bool) (magnitude : Magnitude) : Int :=
  if negative then -magnitude.units else magnitude.units

/-- The numeric order. Nothing is ordered against not-a-number. -/
def le : Binary64 → Binary64 → Bool
  | nan, _ => false
  | _, nan => false
  | infinity true, _ => true
  | _, infinity false => true
  | infinity false, _ => false
  | _, infinity true => false
  | finite s m, finite t n => signedUnits s m ≤ signedUnits t n

/-- Strictly below in the numeric order. -/
def lt (x y : Binary64) : Bool := x.le y && !y.le x

/-- Numeric equality: the two zeros are equal, not-a-number equals nothing. -/
def same (x y : Binary64) : Bool := x.le y && y.le x

/-- Numeric equality under which not-a-number equals itself. -/
def sameOrNan (x y : Binary64) : Bool := x.same y || (x = nan && y = nan)

/-- The sum, rounded to the nearest number. -/
def add : Binary64 → Binary64 → Binary64
  | nan, _ => nan
  | _, nan => nan
  | infinity s, infinity t => if s = t then infinity s else nan
  | infinity s, _ => infinity s
  | _, infinity t => infinity t
  | finite s m, finite t n =>
    let sum := signedUnits s m + signedUnits t n
    ofUnits (if sum = 0 then s && t else sum < 0) sum.natAbs 1

instance : Add Binary64 := ⟨add⟩

instance : Inhabited Binary64 := ⟨finite false Magnitude.zero⟩

instance : OfNat Binary64 n := ⟨ofNat n⟩

instance : Neg Binary64 := ⟨neg⟩

end Binary64

end InterfaceAddress
