import InterfaceAddress.Json.Reader
import InterfaceAddress.Json.Writer
import InterfaceAddress.Number.Integer
import InterfaceAddress.Proofs.Number.Nearest
import InterfaceAddress.Proofs.Text.Numerals
import Mathlib

/-! # Numbers in JSON

The text of a finite number is a numeral of JSON (`Json.isNumeral_ofMagnitude`), for
the shortest decimal of a positive number has a leading digit. Every numeral is read as a
number (`Json.IsNumeral.exists_number?`).
-/

namespace InterfaceAddress

/-! ### Leading digits -/

/-- Only zero has a numeral that begins with zero. -/
theorem Text.head?_toDigits_ten {value : Nat} (positive : 0 < value) :
    (Nat.toDigits 10 value).head? ≠ some '0' := by
  induction value using Nat.strong_induction_on with
  | _ value ih =>
    by_cases small : value < 10
    · rw [Nat.toDigits_of_lt_base small, List.head?_cons]
      interval_cases value <;> decide
    · rw [Nat.toDigits_of_base_le (by decide) (Nat.not_lt.mp small),
        List.head?_append_of_ne_nil _ Nat.toDigits_ne_nil]
      exact ih (value / 10) (by omega) (by omega)

theorem pow_decimalLength_le {value : Nat} (positive : 0 < value) :
    10 ^ (decimalLength value - 1) ≤ value := by
  by_cases single : decimalLength value - 1 = 0
  · rw [single]
    exact positive
  · have longer : ¬ decimalLength value ≤ decimalLength value - 1 := by omega
    exact Nat.not_lt.mp fun below => longer
      ((Nat.length_toDigits_le_iff (by decide) (Nat.pos_of_ne_zero single)).mpr below)

namespace Magnitude

variable {magnitude : Magnitude} {digits : Nat} {decimal : Decimal}

theorem unitsPerOne_le_pow {exponent : Nat} (large : onePlace ≤ 3 * exponent) :
    unitsPerOne ≤ 10 ^ exponent := by
  rw [unitsPerOne_eq]
  calc 2 ^ onePlace ≤ 2 ^ (3 * exponent) := Nat.pow_le_pow_right (by decide) large
    _ = (2 ^ 3) ^ exponent := Nat.pow_mul 2 3 exponent
    _ ≤ 10 ^ exponent := Nat.pow_le_pow_left (by decide) exponent

/-- A positive magnitude reaches the power of ten of its leading digit and all lower ones. The
place of this digit is counted from a shift, which only has to be large enough. -/
theorem unitsPerOne_mul_pow_le (positive : 0 < magnitude.units) (some : 0 < digits)
    {shift : Nat} (large : onePlace ≤ 3 * shift) {place : Int}
    (places : place + shift = decimalLength (magnitude.units * Nat.pow 10 shift / unitsPerOne)) :
    unitsPerOne * 10 ^ (place - digits).toNat ≤
      magnitude.units * 10 ^ (-(place - digits)).toNat := by
  rw [Nat.pow_eq] at places
  have scaled : 0 < magnitude.units * 10 ^ shift / unitsPerOne :=
    Nat.div_pos (Nat.le_trans (unitsPerOne_le_pow large) (Nat.le_mul_of_pos_left _ positive))
      unitsPerOne_pos
  have reached := pow_decimalLength_le scaled
  have leading : 0 < decimalLength (magnitude.units * 10 ^ shift / unitsPerOne) :=
    Nat.length_toDigits_pos
  rw [Nat.le_div_iff_mul_le unitsPerOne_pos, Nat.mul_comm] at reached
  generalize decimalLength (magnitude.units * 10 ^ shift / unitsPerOne) = length at *
  generalize up : (place - digits).toNat = above
  generalize down : (-(place - digits)).toNat = below
  have exponents : above + shift ≤ length - 1 + below := by omega
  apply Nat.le_of_mul_le_mul_right _ (Nat.pow_pos (by decide : 0 < 10) (n := shift))
  calc unitsPerOne * 10 ^ above * 10 ^ shift
      = unitsPerOne * 10 ^ (above + shift) := by rw [Nat.pow_add, Nat.mul_assoc]
    _ ≤ unitsPerOne * 10 ^ (length - 1 + below) :=
        Nat.mul_le_mul_left _ (Nat.pow_le_pow_right (by decide) exponents)
    _ = unitsPerOne * 10 ^ (length - 1) * 10 ^ below := by rw [Nat.pow_add, Nat.mul_assoc]
    _ ≤ magnitude.units * 10 ^ shift * 10 ^ below := Nat.mul_le_mul_right _ reached
    _ = magnitude.units * 10 ^ below * 10 ^ shift := Nat.mul_right_comm ..

theorem exists_leadingPlace_add (magnitude : Magnitude) : ∃ shift : Nat, onePlace ≤ 3 * shift ∧
    magnitude.leadingPlace + shift =
      decimalLength (magnitude.units * Nat.pow 10 shift / unitsPerOne) := by
  have cancel (length : Int) : length - 400 + (400 : Nat) = length := by omega
  refine ⟨400, ?_, cancel _⟩
  rw [onePlace_eq]
  decide

/-- A decimal that stands for a positive magnitude has a leading digit. -/
theorem coefficient_pos_of_decimalWith? (positive : 0 < magnitude.units) (some : 0 < digits)
    (found : magnitude.decimalWith? digits = .some decimal) : 0 < decimal.coefficient := by
  obtain ⟨shift, large, places⟩ := magnitude.exists_leadingPlace_add
  have reached := unitsPerOne_mul_pow_le positive some large places
  have leading : 0 < magnitude.units * Nat.pow 10 (-(magnitude.leadingPlace - digits)).toNat /
      (unitsPerOne * Nat.pow 10 (magnitude.leadingPlace - digits).toNat) :=
    Nat.div_pos reached (Nat.mul_pos unitsPerOne_pos (Nat.pow_pos (by decide)))
  simp only [decimalWith?] at found
  split_ifs at found
  · cases found
    rcases roundHalfEven_cases _ _ with ⟨rounded, -⟩ | ⟨rounded, -⟩
    · rw [rounded]
      exact leading
    · rw [rounded]
      exact Nat.succ_pos _
  · cases found
    exact leading
  · cases found
    exact Nat.succ_pos _

/-- If no decimal were found, zero would be written. -/
theorem shortest_cases (positive : 0 < magnitude.units) :
    0 < magnitude.shortest.coefficient ∨ magnitude.shortest = ⟨0, 0⟩ := by
  rw [shortest]
  cases found : (List.range' 1 17).findSome? magnitude.decimalWith? with
  | none => exact .inr rfl
  | some decimal =>
    obtain ⟨digits, member, same⟩ := List.exists_of_findSome?_eq_some found
    have atLeastOne : 0 < digits := (List.mem_range'_1.mp member).1
    exact .inl (coefficient_pos_of_decimalWith? positive atLeastOne same)

end Magnitude

/-! ### Numerals -/

namespace Json

variable {text whole fraction exponent : List Char} {magnitude : Magnitude}

/-- A run of characters of one kind ends where another kind follows. -/
theorem span_append {kind : Char → Bool} {front rest : List Char}
    (same : ∀ char ∈ front, kind char = true) (stops : ∀ char ∈ rest.head?, kind char = false) :
    (front ++ rest).span kind = (front, rest) := by
  rw [List.span_eq_takeWhile_dropWhile, List.takeWhile_append_of_pos same,
    List.dropWhile_append_of_pos same]
  cases rest with
  | nil => rw [List.takeWhile_nil, List.dropWhile_nil, List.append_nil]
  | cons first rest =>
    have other : ¬ kind first = true := Bool.eq_false_iff.mp (stops first rfl)
    rw [List.takeWhile_cons_of_neg other, List.dropWhile_cons_of_neg other, List.append_nil]

/-- Nothing, or digits behind a point. -/
inductive IsFraction : List Char → Prop where
  | nothing : IsFraction []
  | digits {first : Char} {rest : List Char}
      (areDigits : ∀ char ∈ first :: rest, char.isDigit = true) :
      IsFraction ('.' :: first :: rest)

/-- Nothing, or digits behind a mark and a sign. -/
inductive IsExponent : List Char → Prop where
  | nothing : IsExponent []
  | digits {sign : Char} (isSign : sign = '+' ∨ sign = '-') {digits : List Char}
      (nonempty : digits ≠ []) (areDigits : ∀ char ∈ digits, char.isDigit = true) :
      IsExponent ('e' :: sign :: digits)

/-- A number without a sign as it is written in JSON: digits without a needless zero in front, then
perhaps a fraction and an exponent. -/
structure IsNumeral (text : List Char) : Prop where
  parts : ∃ whole fraction exponent, text = whole ++ (fraction ++ exponent) ∧
    isWholePart whole = true ∧ (∀ char ∈ whole, char.isDigit = true) ∧
    IsFraction fraction ∧ IsExponent exponent

theorem ofDecimalDigits?_of_isDigit {digits : List Char} (nonempty : digits ≠ [])
    (areDigits : ∀ char ∈ digits, char.isDigit = true) :
    Text.ofDecimalDigits? digits = some (Nat.ofDigitChars 10 digits 0) :=
  if_pos ⟨nonempty, List.all_eq_true.mpr areDigits⟩

namespace IsExponent

variable (isExponent : IsExponent exponent)
include isExponent

theorem exists_exponent? : ∃ value, Numeral.exponent? exponent = some value := by
  cases isExponent with
  | nothing => exact ⟨0, rfl⟩
  | digits isSign nonempty areDigits =>
    have read := ofDecimalDigits?_of_isDigit nonempty areDigits
    rcases isSign with rfl | rfl <;> simp [Numeral.exponent?, read]

theorem not_isDigit_head : ∀ char ∈ exponent.head?, char.isDigit = false := by
  cases isExponent with
  | nothing => exact nofun
  | digits =>
    rintro _ ⟨⟩
    rfl

end IsExponent

theorem IsFraction.not_isDigit_head (isFraction : IsFraction fraction)
    (isExponent : IsExponent exponent) :
    ∀ char ∈ (fraction ++ exponent).head?, char.isDigit = false := by
  cases isFraction with
  | nothing => exact isExponent.not_isDigit_head
  | digits areDigits =>
    rintro _ ⟨⟩
    rfl

theorem ne_nil_of_isWholePart (isWhole : isWholePart whole = true) : whole ≠ [] := by
  rintro rfl
  cases isWhole

namespace IsNumeral

variable (isNumeral : IsNumeral text)
include isNumeral

theorem exists_decimal? : ∃ decimal, Numeral.decimal? text = some decimal := by
  obtain ⟨whole, fraction, exponent, rfl, isWhole, wholeDigits, isFraction, isExponent⟩ :=
    isNumeral.parts
  obtain ⟨value, read⟩ := isExponent.exists_exponent?
  have nonempty := ne_nil_of_isWholePart isWhole
  rw [Numeral.decimal?, span_append wholeDigits (isFraction.not_isDigit_head isExponent)]
  cases isFraction with
  | nothing =>
    have coefficient := ofDecimalDigits?_of_isDigit nonempty wholeDigits
    cases isExponent with
    | nothing => simp [coefficient, read]
    | digits => simp [coefficient, read]
  | @digits first rest areDigits =>
    have allDigits : ∀ char ∈ whole ++ first :: rest, char.isDigit = true :=
      List.forall_mem_append.mpr ⟨wholeDigits, areDigits⟩
    have coefficient :=
      ofDecimalDigits?_of_isDigit (List.append_ne_nil_of_left_ne_nil nonempty _) allDigits
    have rests := span_append areDigits isExponent.not_isDigit_head
    rw [List.cons_append] at rests
    simp only [List.cons_append, rests, coefficient, read, Option.bind_eq_bind, Option.bind_some]
    exact ⟨_, rfl⟩

theorem ne_minus (rest : List Char) : text ≠ '-' :: rest := by
  obtain ⟨whole, fraction, exponent, rfl, isWhole, wholeDigits, -⟩ := isNumeral.parts
  intro minus
  obtain ⟨first, more, rfl⟩ := List.exists_cons_of_ne_nil (ne_nil_of_isWholePart isWhole)
  cases (List.cons.inj minus).1
  cases wholeDigits '-' List.mem_cons_self

/-- A numeral is read as a number, with or without a minus in front. -/
theorem exists_number? : (∃ number, number? text = some number) ∧
    ∃ number, number? ('-' :: text) = some number := by
  obtain ⟨decimal, read⟩ := isNumeral.exists_decimal?
  have unsigned := isNumeral.ne_minus
  obtain ⟨whole, fraction, exponent, rfl, isWhole, wholeDigits, isFraction, isExponent⟩ :=
    isNumeral.parts
  have span := span_append wholeDigits (isFraction.not_isDigit_head isExponent)
  rw [number?, number?]
  · simp only [span, isWhole, read, Bool.true_and]
    cases isFraction with
    | digits areDigits =>
      simp only [List.cons_append, areDigits _ List.mem_cons_self]
      exact ⟨⟨_, rfl⟩, ⟨_, rfl⟩⟩
    | nothing => cases isExponent <;> exact ⟨⟨_, rfl⟩, ⟨_, rfl⟩⟩
  · exact fun rest => unsigned rest

theorem isWordChar_of_mem : ∀ char ∈ text, isWordChar char = true := by
  have ofDigit {char : Char} (isDigit : char.isDigit = true) : isWordChar char = true := by
    simp only [isWordChar, Char.isAlphanum, isDigit, Bool.or_true, Bool.true_or]
  obtain ⟨whole, fraction, exponent, rfl, -, wholeDigits, isFraction, isExponent⟩ :=
    isNumeral.parts
  rw [List.forall_mem_append, List.forall_mem_append]
  refine ⟨fun char member => ofDigit (wholeDigits char member), ?_, ?_⟩
  · cases isFraction with
    | nothing => exact nofun
    | digits areDigits =>
      exact List.forall_mem_cons.mpr ⟨rfl, fun char member => ofDigit (areDigits char member)⟩
  · cases isExponent with
    | nothing => exact nofun
    | @digits sign isSign _ _ areDigits =>
      have sign : isWordChar sign = true := by
        rcases isSign with rfl | rfl <;> rfl
      exact List.forall_mem_cons.mpr ⟨rfl, List.forall_mem_cons.mpr
        ⟨sign, fun char member => ofDigit (areDigits char member)⟩⟩

end IsNumeral

/-! ### The text of a number -/

theorem isWholePart_of_head? {digits : List Char} (nonempty : digits ≠ [])
    (leading : digits.head? ≠ some '0') : isWholePart digits = true := by
  obtain ⟨first, rest, rfl⟩ := List.exists_cons_of_ne_nil nonempty
  have notZero : first ≠ '0' := fun zero => leading (congrArg some zero)
  rw [isWholePart]
  · exact decide_eq_true notZero
  · rintro rfl
    exact absurd rfl notZero

theorem isNumeral_toDigits (value : Nat) : IsNumeral (Nat.toDigits 10 value) := by
  refine ⟨Nat.toDigits 10 value, [], [], by simp, ?_, fun char => Text.isDigit_of_mem_toDigits_ten,
    .nothing, .nothing⟩
  rcases Nat.eq_zero_or_pos value with rfl | positive
  · rfl
  · exact isWholePart_of_head? Nat.toDigits_ne_nil (Text.head?_toDigits_ten positive)

theorem isNumeral_of_fraction {fraction : List Char} (isWhole : isWholePart whole = true)
    (wholeDigits : ∀ char ∈ whole, char.isDigit = true) (nonempty : fraction ≠ [])
    (fractionDigits : ∀ char ∈ fraction, char.isDigit = true) :
    IsNumeral (whole ++ '.' :: fraction) := by
  obtain ⟨first, rest, rfl⟩ := List.exists_cons_of_ne_nil nonempty
  exact ⟨whole, _, [], by rw [List.append_nil], isWhole, wholeDigits, .digits fractionDigits,
    .nothing⟩

section Layout

variable {first : Char} {rest : List Char}
  (areDigits : ∀ char ∈ first :: rest, char.isDigit = true) (leading : first ≠ '0')
include areDigits leading

/-- Digits with an exponent behind the first one or behind a fraction. -/
theorem isNumeral_scientific {sign : Char} (isSign : sign = '+' ∨ sign = '-') (value : Nat) :
    IsNumeral ([first] ++ ((if (first :: rest).length = 1 then [] else '.' :: rest) ++
      'e' :: sign :: Nat.toDigits 10 value)) := by
  obtain ⟨isDigit, restDigits⟩ := List.forall_mem_cons.mp areDigits
  refine ⟨[first], _, _, rfl, isWholePart_of_head? (List.cons_ne_nil _ _)
    (fun zero => leading (Option.some.inj zero)), List.forall_mem_singleton.mpr isDigit, ?_,
    .digits isSign Nat.toDigits_ne_nil fun char => Text.isDigit_of_mem_toDigits_ten⟩
  cases rest with
  | nil => exact .nothing
  | cons second more =>
    rw [if_neg (by simp)]
    exact .digits restDigits

/-- Digits are laid out as a numeral if they do not begin with zero. -/
theorem isNumeral_layout (place : Int) : IsNumeral (Numeral.layout (first :: rest) place) := by
  have starts : (first :: rest).head? ≠ some '0' := fun zero => leading (Option.some.inj zero)
  have areZeros (count : Nat) : ∀ char ∈ List.replicate count '0', char.isDigit = true := by
    intro char member
    rw [List.eq_of_mem_replicate member]
    rfl
  unfold Numeral.layout
  by_cases far : place ≤ -6 ∨ 21 < place
  · rw [if_pos far]
    have sign : (if place - 1 < 0 then '-' else '+') = '+' ∨
        (if place - 1 < 0 then '-' else '+') = '-' := by
      split
      · exact .inr rfl
      · exact .inl rfl
    have scientific := isNumeral_scientific areDigits leading sign (place - 1).natAbs
    simpa using scientific
  · rw [if_neg far]
    by_cases low : place ≤ 0
    · rw [if_pos low]
      have zero : ∀ char ∈ ['0'], char.isDigit = true := List.forall_mem_singleton.mpr rfl
      exact isNumeral_of_fraction rfl zero
        (List.append_ne_nil_of_right_ne_nil _ (List.cons_ne_nil _ _))
        (List.forall_mem_append.mpr ⟨areZeros _, areDigits⟩)
    · rw [if_neg low]
      by_cases short : ((first :: rest).length : Int) ≤ place
      · rw [if_pos short]
        refine ⟨_, [], [], (List.append_nil _).symm, isWholePart_of_head? (by simp) starts,
          List.forall_mem_append.mpr ⟨areDigits, areZeros _⟩, .nothing, .nothing⟩
      · rw [if_neg short]
        obtain ⟨above, same⟩ : ∃ above : Nat, place.toNat = above + 1 :=
          Nat.exists_eq_succ_of_ne_zero (by omega)
        rw [same]
        refine isNumeral_of_fraction (isWholePart_of_head? (by simp) starts)
          (fun char member => areDigits char (List.mem_of_mem_take member)) ?_
          fun char member => areDigits char (List.mem_of_mem_drop member)
        rw [← same, Ne, List.drop_eq_nil_iff]
        omega

end Layout

/-- The digits that are written of a positive number do not begin with zero. -/
theorem exists_significantDigits {value : Nat} (positive : 0 < value) : ∃ first rest,
    Numeral.significantDigits value = first :: rest ∧ first ≠ '0' ∧
      ∀ char ∈ first :: rest, char.isDigit = true := by
  have kept : Numeral.significantDigits value =
      (Nat.toDigits 10 value).rdropWhile (· = '0') := rfl
  obtain ⟨dropped, whole⟩ := List.rdropWhile_prefix (· = '0') (l := Nat.toDigits 10 value)
  have leading := Text.head?_toDigits_ten positive
  rw [← kept] at whole
  cases digits : Numeral.significantDigits value with
  | nil =>
    rw [kept, List.rdropWhile_eq_nil_iff] at digits
    obtain ⟨first, rest, numeral⟩ := List.exists_cons_of_ne_nil (Nat.toDigits_ne_nil (n := value))
    rw [numeral, List.head?_cons] at leading
    rw [numeral] at digits
    exact absurd (congrArg some (of_decide_eq_true (digits first List.mem_cons_self))) leading
  | cons first rest =>
    rw [digits] at whole
    rw [← whole, List.cons_append, List.head?_cons] at leading
    refine ⟨first, rest, rfl, fun zero => leading (congrArg some zero), fun char member => ?_⟩
    have digit : char ∈ Nat.toDigits 10 value := by
      rw [← whole]
      exact List.mem_append_left dropped member
    exact Text.isDigit_of_mem_toDigits_ten digit

theorem isNumeral_ofMagnitude (magnitude : Magnitude) :
    IsNumeral (Numeral.ofMagnitude magnitude) := by
  simp only [Numeral.ofMagnitude]
  split_ifs with small
  · exact isNumeral_toDigits magnitude.whole
  · have positive : 0 < magnitude.units := by
      rw [Nat.pos_iff_ne_zero]
      intro zero
      apply small
      simp [Magnitude.IsWhole, Magnitude.whole, zero]
    rcases magnitude.shortest_cases positive with leading | zero
    · obtain ⟨first, rest, same, notZero, areDigits⟩ := exists_significantDigits leading
      rw [same]
      exact isNumeral_layout areDigits notZero _
    · rw [zero]
      exact isNumeral_toDigits 0

/-- Whatever is written for a number, finite or not, is one word that is read. -/
theorem number_isWord (value : Binary64) : (∃ read, scalar? (number value) = some read) ∧
    number value ≠ [] ∧ ∀ char ∈ number value, isWordChar char = true := by
  have null : (∃ read, scalar? "null".toList = some read) ∧ "null".toList ≠ [] ∧
      ∀ char ∈ "null".toList, isWordChar char = true :=
    ⟨⟨.null, rfl⟩, by decide, List.all_eq_true.mp rfl⟩
  cases value with
  | nan | infinity => exact null
  | finite negative magnitude =>
    have isNumeral := isNumeral_ofMagnitude magnitude
    have read {word : List Char} (isNumber : ∃ given, number? word = some given) :
        ∃ given, scalar? word = some given := by
      obtain ⟨given, found⟩ := isNumber
      unfold scalar?
      split_ifs
      · exact ⟨_, rfl⟩
      · exact ⟨_, rfl⟩
      · exact ⟨_, rfl⟩
      · exact ⟨.number given, by rw [found]; rfl⟩
    obtain ⟨unsigned, signed⟩ := isNumeral.exists_number?
    simp only [number, Numeral.ofBinary64]
    split_ifs
    · exact ⟨read signed, List.cons_ne_nil _ _,
        List.forall_mem_cons.mpr ⟨rfl, isNumeral.isWordChar_of_mem⟩⟩
    · refine ⟨read unsigned, ?_, isNumeral.isWordChar_of_mem⟩
      rintro empty
      rw [empty] at isNumeral
      obtain ⟨whole, _, _, same, isWhole, -⟩ := isNumeral.parts
      exact ne_nil_of_isWholePart isWhole (List.append_eq_nil_iff.mp same.symm).1

end Json

end InterfaceAddress
