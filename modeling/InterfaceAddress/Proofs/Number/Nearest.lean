import InterfaceAddress.Proofs.Number.Order
import Mathlib

/-! # Rounding to the nearest number

A number of units is rounded in the place of its leading 53 bits. No magnitude
is nearer to it than the one that is found, and of two that are equally near the
even one is found (`Magnitude.dist_le_of_nearest?`). None is found exactly from
the middle between the largest magnitude and the next power of two on
(`Magnitude.nearest?_eq_none_iff`). So a natural number of any length has one
nearest number (`Binary64.isNearest_ofNat`), and that is small only if the
natural number is.
-/

namespace InterfaceAddress

namespace Magnitude

/-- Magnitudes with the same units are the same. -/
theorem units_injective : Function.Injective units := by
  intro magnitude other same
  have found := nearest?_units magnitude
  rw [same, nearest?_units] at found
  exact (Option.some.inj found).symm

/-! ### Rounding a quotient -/

section Rounding

variable {numerator scale : Nat}

/-- A quotient is rounded down if its rest is less than a half, and up if it is more; a half is
rounded to the even neighbour. -/
theorem roundHalfEven_cases (numerator scale : Nat) :
    (roundHalfEven numerator scale = numerator / scale ∧
      (2 * (numerator % scale) < scale ∨
        2 * (numerator % scale) = scale ∧ numerator / scale % 2 = 0)) ∨
    (roundHalfEven numerator scale = numerator / scale + 1 ∧
      (scale < 2 * (numerator % scale) ∨
        2 * (numerator % scale) = scale ∧ numerator / scale % 2 = 1)) := by
  by_cases down : 2 * (numerator % scale) < scale ∨
      (2 * (numerator % scale) = scale ∧ numerator / scale % 2 = 0)
  · exact .inl ⟨if_pos down, down⟩
  · refine .inr ⟨if_neg down, ?_⟩
    omega

/-- No multiple of the scale is nearer than the rounded one. One that is equally near is the rounded
one, or the rounded one is even. -/
theorem dist_roundHalfEven_le (numerator : Nat) (positive : 0 < scale) (multiple : Nat) :
    Nat.dist (roundHalfEven numerator scale * scale) numerator ≤
      Nat.dist (multiple * scale) numerator ∧
    (Nat.dist (multiple * scale) numerator =
        Nat.dist (roundHalfEven numerator scale * scale) numerator →
      multiple = roundHalfEven numerator scale ∨ roundHalfEven numerator scale % 2 = 0) := by
  have whole := Nat.div_add_mod' numerator scale
  have small := Nat.mod_lt numerator positive
  have next : (numerator / scale + 1) * scale = numerator / scale * scale + scale :=
    Nat.succ_mul ..
  -- a multiple is not above the quotient or not below the next one
  have beside : multiple * scale ≤ numerator / scale * scale ∨
      (numerator / scale + 1) * scale ≤ multiple * scale := by
    rcases Nat.lt_or_ge (numerator / scale) multiple with above | below
    · exact .inr (Nat.mul_le_mul_right scale above)
    · exact .inl (Nat.mul_le_mul_right scale below)
  simp only [Nat.dist]
  rcases roundHalfEven_cases numerator scale with ⟨down, rest⟩ | ⟨up, rest⟩
  · rw [down]
    refine ⟨by omega, fun equal => ?_⟩
    rcases rest with less | ⟨half, even⟩
    · exact .inl (Nat.eq_of_mul_eq_mul_right positive (by omega))
    · exact .inr even
  · rw [up]
    refine ⟨by omega, fun equal => ?_⟩
    rcases rest with more | ⟨half, odd⟩
    · exact .inl (Nat.eq_of_mul_eq_mul_right positive (by omega))
    · exact .inr (by omega)

end Rounding

/-! ### Rounding to a magnitude -/

variable {magnitude other : Magnitude} {count : Nat}

theorem ofParts?_eq_some_iff {significand shift : Nat} :
    ofParts? significand shift = some magnitude ↔
      magnitude.significand = significand ∧ magnitude.shift = shift := by
  constructor
  · intro made
    unfold ofParts? at made
    split at made
    · cases made
      exact ⟨rfl, rfl⟩
    · cases made
  · rintro ⟨rfl, rfl⟩
    exact ofParts?_self magnitude

/-- The place in which a number of units is rounded, so that 53 bits are left. -/
def place (count : Nat) : Nat := count.log2 - 52

/-- The magnitude that is found is a multiple of the place, and even if the rounded one is. -/
theorem units_of_nearest? (found : nearest? count 1 = some magnitude) :
    magnitude.units = roundHalfEven count (2 ^ place count) * 2 ^ place count ∧
      (roundHalfEven count (2 ^ place count) % 2 = 0 → magnitude.significand % 2 = 0) := by
  unfold nearest? at found
  simp only [Nat.div_one, Nat.shiftLeft_eq, Nat.one_mul] at found
  rw [units_eq, place]
  split at found
  case isTrue carried =>
    obtain ⟨significand, shift⟩ := ofParts?_eq_some_iff.mp found
    rw [significand, shift, carried]
    exact ⟨by rw [Nat.pow_succ]; omega, fun _ => rfl⟩
  case isFalse =>
    obtain ⟨significand, shift⟩ := ofParts?_eq_some_iff.mp found
    rw [significand, shift]
    exact ⟨rfl, id⟩

/-- A magnitude in a lower place is below the leading bit. -/
theorem units_lt_of_shift_lt (lower : other.shift < place count) :
    other.units < 2 ^ 52 * 2 ^ place count ∧ 2 ^ 52 * 2 ^ place count ≤ count := by
  have nonzero : count ≠ 0 := by
    rintro rfl
    exact absurd lower (by simp [place])
  rw [place] at lower
  have leading := Nat.log2_self_le nonzero
  have split : 52 + place count = count.log2 := by
    rw [place]
    omega
  rw [← Nat.pow_add, split]
  refine ⟨?_, leading⟩
  have small := Nat.mul_lt_mul_of_pos_right other.canonical.1 (Nat.two_pow_pos other.shift)
  have below : 2 ^ (53 + other.shift) ≤ 2 ^ count.log2 :=
    Nat.pow_le_pow_right (by decide) (by omega)
  rw [Nat.pow_add] at below
  rw [units_eq]
  exact Nat.lt_of_lt_of_le small below

/-- No magnitude is nearer than the one that is found. One that is equally near is the one that is
found, or that one is even. -/
theorem dist_le_of_nearest? (found : nearest? count 1 = some magnitude) (other : Magnitude) :
    Nat.dist magnitude.units count ≤ Nat.dist other.units count ∧
    (Nat.dist other.units count = Nat.dist magnitude.units count →
      other = magnitude ∨ magnitude.significand % 2 = 0) := by
  obtain ⟨units, even⟩ := units_of_nearest? found
  have positive := Nat.two_pow_pos (place count)
  rcases Nat.lt_or_ge other.shift (place count) with lower | upper
  · -- the leading bit is a multiple of the place, and nearer than what is below it
    obtain ⟨small, leading⟩ := units_lt_of_shift_lt lower
    have nearest := (dist_roundHalfEven_le count positive (2 ^ 52)).1
    rw [← units] at nearest
    simp only [Nat.dist] at nearest ⊢
    exact ⟨by omega, by omega⟩
  · have multiple : other.units =
        other.significand * 2 ^ (other.shift - place count) * 2 ^ place count := by
      rw [units_eq, Nat.mul_assoc, ← Nat.pow_add, Nat.sub_add_cancel upper]
    have nearest := dist_roundHalfEven_le count positive
      (other.significand * 2 ^ (other.shift - place count))
    rw [← multiple, ← units] at nearest
    refine ⟨nearest.1, fun equal => ?_⟩
    rcases nearest.2 equal with same | isEven
    · exact .inl (units_injective (by rw [multiple, same, units]))
    · exact .inr (even isEven)

/-! ### Past the largest magnitude -/

theorem ofParts?_eq_none_iff {significand shift : Nat} :
    ofParts? significand shift = none ↔ ¬ IsCanonical significand shift := by
  unfold ofParts?
  split <;> simp_all

theorem lt_of_place (count : Nat) : count < 2 ^ 53 * 2 ^ place count := by
  have past := Nat.lt_log2_self (n := count)
  have below : 2 ^ (count.log2 + 1) ≤ 2 ^ (53 + place count) :=
    Nat.pow_le_pow_right (by decide) (by rw [place]; omega)
  rw [Nat.pow_add 2 53] at below
  exact Nat.lt_of_lt_of_le past below

theorem le_of_place_pos (positive : 0 < place count) : 2 ^ 52 * 2 ^ place count ≤ count := by
  have lower : zero.shift < place count := positive
  exact (units_lt_of_shift_lt lower).2

/-- A quotient in its place has 53 bits, if it is not carried. -/
theorem roundHalfEven_place (count : Nat) :
    roundHalfEven count (2 ^ place count) ≤ 2 ^ 53 ∧
      (place count = 0 ∨ 2 ^ 52 ≤ roundHalfEven count (2 ^ place count)) := by
  have positive := Nat.two_pow_pos (place count)
  have small := (Nat.div_lt_iff_lt_mul positive).mpr (lt_of_place count)
  have large : place count = 0 ∨ 2 ^ 52 ≤ count / 2 ^ place count := by
    rcases Nat.eq_zero_or_pos (place count) with zero | above
    · exact .inl zero
    · exact .inr ((Nat.le_div_iff_mul_le positive).mpr (le_of_place_pos above))
  rcases roundHalfEven_cases count (2 ^ place count) with ⟨down, -⟩ | ⟨up, -⟩
  · rw [down]
    exact ⟨by omega, large⟩
  · rw [up]
    exact ⟨by omega, large.imp_right (by omega)⟩

theorem nearest?_eq_none_iff_place : nearest? count 1 = none ↔
    2045 < place count ∨
      place count = 2045 ∧ roundHalfEven count (2 ^ place count) = 2 ^ 53 := by
  obtain ⟨small, large⟩ := roundHalfEven_place count
  unfold nearest?
  simp only [Nat.div_one, Nat.shiftLeft_eq, Nat.one_mul]
  rw [place] at small large ⊢
  split
  case isTrue carried =>
    rw [ofParts?_eq_none_iff, IsCanonical]
    omega
  case isFalse kept =>
    rw [ofParts?_eq_none_iff, IsCanonical]
    omega

/-- In the last place the middle between the largest magnitude and the next power of two is carried,
since the largest significand is odd. -/
theorem roundHalfEven_eq_carry_iff {half : Nat} (positive : 0 < half)
    (small : count < 2 ^ 53 * (2 * half)) :
    roundHalfEven count (2 * half) = 2 ^ 53 ↔ (2 ^ 54 - 1) * half ≤ count := by
  have bound : count / (2 * half) < 2 ^ 53 := (Nat.div_lt_iff_lt_mul (by omega)).mpr small
  have whole := Nat.div_add_mod' count (2 * half)
  constructor
  · intro carried
    rcases roundHalfEven_cases count (2 * half) with ⟨down, rest⟩ | ⟨up, rest⟩
    · omega
    · have last : count / (2 * half) = 2 ^ 53 - 1 := by omega
      rw [last] at whole
      omega
  · intro past
    have last : 2 ^ 53 - 1 ≤ count / (2 * half) :=
      (Nat.le_div_iff_mul_le (by omega)).mpr (by omega)
    have equal : count / (2 * half) = 2 ^ 53 - 1 := by omega
    rw [equal] at whole
    rcases roundHalfEven_cases count (2 * half) with ⟨down, rest⟩ | ⟨up, rest⟩
    · omega
    · omega

/-- None is found from the middle between the largest magnitude and the next power of two on. -/
theorem nearest?_eq_none_iff : nearest? count 1 = none ↔ (2 ^ 54 - 1) * 2 ^ 2044 ≤ count := by
  rw [nearest?_eq_none_iff_place]
  have powers (lower upper : Nat) (ordered : lower ≤ upper) : 2 ^ lower ≤ 2 ^ upper :=
    Nat.pow_le_pow_right Nat.two_pos ordered
  have successor (exponent : Nat) : 2 ^ (exponent + 1) = 2 * 2 ^ exponent := Nat.pow_succ'
  have small := lt_of_place count
  generalize halved : 2044 = exponent at *
  rcases Nat.lt_trichotomy (place count) (exponent + 1) with lower | last | upper
  · have below := powers (place count) exponent (by omega)
    omega
  · have positive := Nat.two_pow_pos exponent
    rw [last, successor exponent] at small ⊢
    rw [roundHalfEven_eq_carry_iff positive small]
    omega
  · have leading : 2 ^ 52 * 2 ^ place count ≤ count := le_of_place_pos (by omega)
    have above := powers (exponent + 2) (place count) upper
    rw [successor (exponent + 1), successor exponent] at above
    omega

end Magnitude

/-! ### The number nearest to a natural number -/

namespace Binary64

open Magnitude

/-- The number nearest to a natural number, the even one of two that are equally near. It is
infinite from the middle between the largest finite number and the next power of two on. -/
inductive IsNearest (value : Nat) : Binary64 → Prop where
  | finite {magnitude : Magnitude} (small : value < (2 ^ 54 - 1) * 2 ^ 970)
      (nearest : ∀ other : Magnitude, Nat.dist magnitude.units (value * unitsPerOne) ≤
        Nat.dist other.units (value * unitsPerOne))
      (even : ∀ other : Magnitude, Nat.dist other.units (value * unitsPerOne) =
        Nat.dist magnitude.units (value * unitsPerOne) →
          other = magnitude ∨ magnitude.significand % 2 = 0) :
      IsNearest value (finite false magnitude)
  | infinite (past : (2 ^ 54 - 1) * 2 ^ 970 ≤ value) : IsNearest value (infinity false)

theorem nearest?_ones_eq_none_iff {value : Nat} :
    nearest? (value * unitsPerOne) 1 = none ↔ (2 ^ 54 - 1) * 2 ^ 970 ≤ value := by
  have split : 2 ^ 2044 = 2 ^ 970 * unitsPerOne := by
    rw [unitsPerOne_eq, onePlace_eq, ← Nat.pow_add]
  rw [nearest?_eq_none_iff, split, ← Nat.mul_assoc]
  exact Nat.mul_le_mul_right_iff unitsPerOne_pos

theorem ofNat_eq (value : Nat) : ofNat value = ofUnits false (value * unitsPerOne) 1 := by
  have nonnegative : decide ((value : Int) < 0) = false := by simp
  rw [ofNat, ofInt, nonnegative, Int.natAbs_natCast]

theorem isNearest_ofNat (value : Nat) : IsNearest value (ofNat value) := by
  rw [ofNat_eq, ofUnits]
  cases found : nearest? (value * unitsPerOne) 1 with
  | none => exact .infinite (nearest?_ones_eq_none_iff.mp found)
  | some magnitude =>
    have small : ¬ (2 ^ 54 - 1) * 2 ^ 970 ≤ value := by
      rw [← nearest?_ones_eq_none_iff, found]
      exact nofun
    exact .finite (Nat.lt_of_not_le small) (fun other => (dist_le_of_nearest? found other).1)
      fun other => (dist_le_of_nearest? found other).2

/-- Only a natural number itself is rounded to a small one. -/
theorem eq_of_toInt?_ofNat {value length : Nat}
    (isInteger : (ofNat value).toInt? = some (length : Int)) (small : length < 2 ^ 53 - 1) :
    value = length := by
  by_cases safe : value < 2 ^ 53
  · rw [toInt?_ofNat safe, Option.some.injEq, Int.natCast_inj] at isInteger
    exact isInteger
  · exfalso
    obtain ⟨negative, magnitude, found, exact⟩ := toInt?_eq_some_iff.mp isInteger
    have units := units_of_signedUnits exact
    rw [Int.natAbs_natCast] at units
    have nearest := isNearest_ofNat value
    rw [found] at nearest
    cases nearest with
    | finite _ nearest even =>
      -- the largest safe integer would be nearer
      obtain ⟨largest, largestUnits⟩ := exists_units_eq_mul (by decide : 2 ^ 53 - 1 < 2 ^ 53)
      have nearer := nearest largest
      have positive := unitsPerOne_pos
      have below := Nat.mul_lt_mul_of_pos_right small positive
      have above := Nat.mul_le_mul_right unitsPerOne (Nat.le_of_not_lt safe)
      rw [units, largestUnits, Nat.dist, Nat.dist] at nearer
      omega

end Binary64

end InterfaceAddress
