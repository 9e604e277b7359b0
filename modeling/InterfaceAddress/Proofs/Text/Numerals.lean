import InterfaceAddress.Text.Blank
import InterfaceAddress.Text.Digits
import Mathlib

/-! # Blanks and numerals

What trimming leaves of a text (`Text.trim_eq_iff`), which characters are
hexadecimal digits and what a run of them spells (`Text.ofHexDigits?_eq_some_iff`),
and that a decimal numeral without leading zeros is that of its value
(`Text.toDigits_ofDigitChars`). The numeral of a number spells it in both bases
(`Text.exists_hexDigits_toDigits`, `Text.ofDecimalDigits?_toDigits`), and decimal
digits are read as what they spell (`Text.ofDecimalDigits?_eq_some_iff`).
-/

namespace InterfaceAddress.Text

/-! ### Blanks -/

/-- The part of a text between surrounding blanks. -/
structure IsTrimmed (text inner : List Char) : Prop where
  surrounded : ∃ before after, text = before ++ inner ++ after ∧
    (∀ char ∈ before, isBlank char = true) ∧ ∀ char ∈ after, isBlank char = true
  starts : ∀ char ∈ inner.head?, isBlank char = false
  ends : ∀ char ∈ inner.getLast?, isBlank char = false

theorem trim_eq_rdropWhile (text : List Char) :
    trim text = (text.dropWhile isBlank).rdropWhile isBlank := rfl

theorem isTrimmed_trim (text : List Char) : IsTrimmed text (trim text) := by
  rw [trim_eq_rdropWhile]
  generalize right : text.dropWhile isBlank = rest
  refine ⟨⟨text.takeWhile isBlank, rest.rtakeWhile isBlank, ?_, ?_, ?_⟩, ?_, ?_⟩
  · rw [List.append_assoc, List.rdropWhile_append_rtakeWhile, ← right,
      List.takeWhile_append_dropWhile]
  · intro char member
    exact List.mem_takeWhile_imp member
  · intro char member
    exact List.mem_rtakeWhile_imp member
  · intro char first
    have nonempty := List.ne_nil_of_mem (List.mem_of_mem_head? first)
    obtain ⟨dropped, whole⟩ := List.rdropWhile_prefix isBlank (l := rest)
    have same : rest.head? = some char := by
      rw [← whole, List.head?_append_of_ne_nil _ nonempty]
      exact first
    have stopped := List.head?_dropWhile_not isBlank text
    rw [right, same] at stopped
    exact stopped
  · intro char last
    have nonempty := List.ne_nil_of_mem (List.mem_of_mem_getLast? last)
    have stopped := List.rdropWhile_last_not isBlank rest nonempty
    rw [Option.mem_def, List.getLast?_eq_some_getLast nonempty, Option.some.injEq] at last
    rw [last] at stopped
    simpa using stopped

/-- Trimming gives the part between the surrounding blanks. -/
theorem trim_eq_iff {text inner : List Char} : trim text = inner ↔ IsTrimmed text inner := by
  constructor
  · rintro rfl
    exact isTrimmed_trim text
  · rintro ⟨⟨before, after, rfl, beforeBlank, afterBlank⟩, starts, ends⟩
    rw [trim, List.append_assoc, List.dropWhile_append_of_pos beforeBlank]
    cases inner with
    | nil =>
      rw [List.nil_append, List.dropWhile_eq_nil_iff.mpr afterBlank]
      rfl
    | cons first rest =>
      have afterReversed : ∀ char ∈ after.reverse, isBlank char = true := by
        simpa using afterBlank
      have firstKept : ¬ isBlank first = true := by
        simpa using starts first rfl
      rw [List.cons_append, List.dropWhile_cons_of_neg firstKept, ← List.cons_append,
        List.reverse_append, List.dropWhile_append_of_pos afterReversed]
      apply List.rdropWhile_eq_self_iff.mpr
      intro nonempty blank
      have kept := ends _ (List.getLast?_eq_some_getLast nonempty)
      rw [kept] at blank
      cases blank

/-- A text without blanks is left as it is. -/
theorem isTrimmed_self {text : List Char} (noBlanks : ∀ char ∈ text, isBlank char = false) :
    IsTrimmed text text where
  surrounded := ⟨[], [], by simp⟩
  starts := fun _ first => noBlanks _ (List.mem_of_mem_head? first)
  ends := fun _ last => noBlanks _ (List.mem_of_mem_getLast? last)

/-! ### Hexadecimal digits -/

/-- A hexadecimal digit of either case, and its value. -/
def IsHexDigit (char : Char) (value : Nat) : Prop :=
  "0123456789abcdef".toList[value]? = some char ∨ "0123456789ABCDEF".toList[value]? = some char

instance (char : Char) (value : Nat) : Decidable (IsHexDigit char value) :=
  inferInstanceAs (Decidable (_ ∨ _))

theorem toNat_lt_of_hexDigit? {char : Char} {value : Nat} (read : hexDigit? char = some value) :
    char.toNat < 128 := by
  have toNat_le {high : Char} (below : char ≤ high) : char.toNat ≤ high.toNat :=
    UInt32.le_iff_toNat_le.mp (Char.le_def.mp below)
  unfold hexDigit? at read
  split_ifs at read with decimal lower upper
  · exact Nat.lt_of_le_of_lt (Char.isDigit_iff_toNat.mp decimal).2 (by decide)
  · exact Nat.lt_of_le_of_lt (toNat_le lower.2) (by decide)
  · exact Nat.lt_of_le_of_lt (toNat_le upper.2) (by decide)

theorem hexDigit?_eq_some_iff {char : Char} {value : Nat} :
    hexDigit? char = some value ↔ IsHexDigit char value := by
  constructor
  · intro read
    have small := toNat_lt_of_hexDigit? read
    have all : ∀ code < 128, ∀ value ∈ hexDigit? (Char.ofNat code),
        IsHexDigit (Char.ofNat code) value := by
      decide +kernel
    have here := all char.toNat small value
    rw [Char.ofNat_toNat] at here
    exact here read
  · intro isHexDigit
    have small : value < 16 := by
      rcases isHexDigit with lower | upper
      · exact (List.getElem?_eq_some_iff.mp lower).1
      · exact (List.getElem?_eq_some_iff.mp upper).1
    have lowerCase : ∀ value < 16,
        "0123456789abcdef".toList[value]?.bind hexDigit? = some value := by
      decide
    have upperCase : ∀ value < 16,
        "0123456789ABCDEF".toList[value]?.bind hexDigit? = some value := by
      decide
    rcases isHexDigit with lower | upper
    · have read := lowerCase value small
      rwa [lower] at read
    · have read := upperCase value small
      rwa [upper] at read

theorem isBlank_of_isHexDigit {char : Char} {value : Nat} (isHexDigit : IsHexDigit char value) :
    isBlank char = false := by
  have read := hexDigit?_eq_some_iff.mpr isHexDigit
  have all : ∀ code < 128, hexDigit? (Char.ofNat code) ≠ none →
      isBlank (Char.ofNat code) = false := by
    decide
  have here := all char.toNat (toNat_lt_of_hexDigit? read)
  rw [Char.ofNat_toNat, read] at here
  exact here (Option.some_ne_none value)

theorem isHexDigit_digitChar {digit : Nat} (small : digit < 16) :
    IsHexDigit (Nat.digitChar digit) digit := by
  have all : ∀ digit < 16, IsHexDigit (Nat.digitChar digit) digit := by
    decide
  exact all digit small

theorem foldlM_hexDigit?_eq_some_iff {digits : List Char} {start value : Nat} :
    digits.foldlM (fun value char => (hexDigit? char).map (16 * value + ·)) start = some value ↔
      ∃ values, List.Forall₂ IsHexDigit digits values ∧
        value = values.foldl (16 * · + ·) start := by
  induction digits generalizing start with
  | nil => simp [eq_comm]
  | cons first rest ih =>
    rw [List.foldlM_cons, Option.bind_eq_bind, Option.bind_eq_some_iff]
    constructor
    · rintro ⟨next, read, spelled⟩
      obtain ⟨digit, known, rfl⟩ := Option.map_eq_some_iff.mp read
      obtain ⟨values, areDigits, rfl⟩ := ih.mp spelled
      exact ⟨digit :: values, .cons (hexDigit?_eq_some_iff.mp known) areDigits, rfl⟩
    · rintro ⟨values, areDigits, rfl⟩
      cases areDigits with
      | cons isDigit areDigits =>
        rename_i digit values
        refine ⟨16 * start + digit, ?_, ih.mpr ⟨values, areDigits, rfl⟩⟩
        rw [hexDigit?_eq_some_iff.mpr isDigit, Option.map_some]

/-- Hexadecimal digits spell the number in base 16. -/
theorem ofHexDigits?_eq_some_iff {digits : List Char} {value : Nat} :
    ofHexDigits? digits = some value ↔
      ∃ values, List.Forall₂ IsHexDigit digits values ∧ value = Nat.ofDigits 16 values.reverse := by
  rw [ofHexDigits?, foldlM_hexDigit?_eq_some_iff]
  simp only [Nat.ofDigits_eq_foldr, List.foldr_reverse, Nat.cast_id, Nat.add_comm]

/-- The hexadecimal numeral of a number spells it. -/
theorem exists_hexDigits_toDigits (value : Nat) :
    ∃ digits, List.Forall₂ IsHexDigit (Nat.toDigits 16 value) digits ∧
      value = Nat.ofDigits 16 digits.reverse := by
  induction value using Nat.strong_induction_on with
  | _ value ih =>
    by_cases small : value < 16
    · rw [Nat.toDigits_of_lt_base small]
      exact ⟨[value], .cons (isHexDigit_digitChar small) .nil, by simp⟩
    · obtain ⟨digits, areDigits, spelled⟩ := ih (value / 16) (by omega)
      have last : IsHexDigit (Nat.digitChar (value % 16)) (value % 16) :=
        isHexDigit_digitChar (Nat.mod_lt value (by decide))
      rw [Nat.toDigits_of_base_le (by decide) (Nat.le_of_not_lt small)]
      refine ⟨digits ++ [value % 16], List.rel_append areDigits (.cons last .nil), ?_⟩
      rw [List.reverse_append, List.reverse_singleton, List.singleton_append, Nat.ofDigits_cons,
        ← spelled]
      exact (Nat.mod_add_div value 16).symm

/-! ### Digits in lower case -/

/-- A digit of a base up to sixteen in lower case, and its value. -/
def IsLowerDigit (base : Nat) (char : Char) (value : Nat) : Prop :=
  value < base ∧ "0123456789abcdef".toList[value]? = some char

instance (base : Nat) (char : Char) (value : Nat) : Decidable (IsLowerDigit base char value) :=
  inferInstanceAs (Decidable (_ ∧ _))

section LowerCase

variable {base : Nat} {text : List Char} {digits : List Nat} (narrow : base ≤ 16)
include narrow

theorem isLowerDigit_iff {char : Char} {value : Nat} :
    IsLowerDigit base char value ↔ value < base ∧ char = Nat.digitChar value := by
  have all : ∀ value < 16, "0123456789abcdef".toList[value]? = some (Nat.digitChar value) := by
    decide
  constructor
  · rintro ⟨small, spelled⟩
    have same := spelled.symm.trans (all value (Nat.lt_of_lt_of_le small narrow))
    exact ⟨small, Option.some.inj same⟩
  · rintro ⟨small, rfl⟩
    exact ⟨small, all value (Nat.lt_of_lt_of_le small narrow)⟩

theorem forall₂_isLowerDigit_iff : List.Forall₂ (IsLowerDigit base) text digits ↔
    (∀ digit ∈ digits, digit < base) ∧ text = digits.map Nat.digitChar := by
  constructor
  · intro areDigits
    induction areDigits with
    | nil => exact ⟨nofun, rfl⟩
    | cons isDigit areDigits ih =>
      obtain ⟨small, rfl⟩ := (isLowerDigit_iff narrow).mp isDigit
      exact ⟨List.forall_mem_cons.mpr ⟨small, ih.1⟩, by rw [ih.2, List.map_cons]⟩
  · rintro ⟨small, rfl⟩
    rw [List.forall₂_map_left_iff, List.forall₂_same]
    exact fun digit member => (isLowerDigit_iff narrow).mpr ⟨small digit member, rfl⟩

end LowerCase

/-! ### Decimal numerals -/

theorem exists_digitChar_of_isDigit {char : Char} (isDigit : char.isDigit = true) :
    ∃ digit < 10, char = Nat.digitChar digit := by
  have bounds := Char.isDigit_iff_toNat.mp isDigit
  have zero : '0'.toNat = 48 := rfl
  have nine : '9'.toNat = 57 := rfl
  refine ⟨char.toNat - 48, by omega, ?_⟩
  have all : ∀ code < 58, 48 ≤ code → Char.ofNat code = Nat.digitChar (code - 48) := by
    decide
  have here := all char.toNat (by omega) (by omega)
  rwa [Char.ofNat_toNat] at here

theorem exists_isHexDigit_of_isDigit {char : Char} (isDigit : char.isDigit = true) :
    ∃ value, IsHexDigit char value := by
  obtain ⟨digit, small, rfl⟩ := exists_digitChar_of_isDigit isDigit
  exact ⟨digit, isHexDigit_digitChar (Nat.lt_trans small (by decide))⟩

theorem isDigit_of_mem_toDigits_ten {value : Nat} {char : Char}
    (member : char ∈ Nat.toDigits 10 value) : char.isDigit = true :=
  Nat.isDigit_of_mem_toDigits (by decide) (by decide) member

/-- The decimal numeral of a number is read back. -/
theorem ofDecimalDigits?_toDigits (value : Nat) :
    ofDecimalDigits? (Nat.toDigits 10 value) = some value := by
  have areDigits : (Nat.toDigits 10 value).all Char.isDigit = true :=
    List.all_eq_true.mpr fun _ member => isDigit_of_mem_toDigits_ten member
  rw [ofDecimalDigits?, if_pos ⟨Nat.toDigits_ne_nil, areDigits⟩, Nat.ofDigitChars_ten_toDigits]

/-- Digits without a leading zero are the numeral of their value. -/
theorem toDigits_ofDigitChars {digits : List Char}
    (areDigits : ∀ char ∈ digits, char.isDigit = true)
    (nonempty : digits ≠ []) (canonical : digits.head? = some '0' → digits.length = 1) :
    Nat.toDigits 10 (Nat.ofDigitChars 10 digits 0) = digits := by
  induction digits using List.reverseRecOn with
  | nil => exact absurd rfl nonempty
  | append_singleton front last ih =>
    have isDigit := areDigits last (List.mem_append_right _ (List.mem_singleton_self last))
    obtain ⟨digit, small, rfl⟩ := exists_digitChar_of_isDigit isDigit
    rw [Nat.ofDigitChars_append, Nat.ofDigitChars_cons_digitChar_of_lt_ten small,
      Nat.ofDigitChars_nil]
    by_cases single : front = []
    · subst single
      rw [Nat.ofDigitChars_nil, Nat.mul_zero, Nat.zero_add, Nat.toDigits_of_lt_base small,
        List.nil_append]
    · have frontDigits : ∀ char ∈ front, char.isDigit = true := fun char member =>
        areDigits char (List.mem_append_left _ member)
      have noZero : front.head? ≠ some '0' := by
        intro zero
        have short := canonical (by rw [List.head?_append_of_ne_nil _ single, zero])
        rw [List.length_append, List.length_singleton] at short
        exact single (List.length_eq_zero_iff.mp (by omega))
      have numeral := ih frontDigits single (fun zero => absurd zero noZero)
      have positive : 0 < Nat.ofDigitChars 10 front 0 := by
        rw [Nat.pos_iff_ne_zero]
        intro zero
        rw [zero, Nat.toDigits_zero] at numeral
        exact noZero (by rw [← numeral]; rfl)
      rw [← Nat.toDigits_append_toDigits (by decide) positive small, numeral,
        Nat.toDigits_of_lt_base small]

/-- One or more decimal digits and the number that they spell; leading zeros are allowed. -/
structure IsDecimal (text : List Char) (value : Nat) : Prop where
  nonempty : text ≠ []
  spelled : ∃ digits, List.Forall₂ (IsLowerDigit 10) text digits ∧
    value = Nat.ofDigits 10 digits.reverse

theorem exists_digits_of_isDigit {text : List Char}
    (areDigits : ∀ char ∈ text, char.isDigit = true) :
    ∃ digits : List Nat, (∀ digit ∈ digits, digit < 10) ∧ text = digits.map Nat.digitChar := by
  induction text with
  | nil => exact ⟨[], nofun, rfl⟩
  | cons char rest ih =>
    obtain ⟨isDigit, restDigits⟩ := List.forall_mem_cons.mp areDigits
    obtain ⟨digit, small, rfl⟩ := exists_digitChar_of_isDigit isDigit
    obtain ⟨digits, allSmall, rfl⟩ := ih restDigits
    exact ⟨digit :: digits, List.forall_mem_cons.mpr ⟨small, allSmall⟩, rfl⟩

theorem ofDigitChars_map_digitChar {digits : List Nat} (small : ∀ digit ∈ digits, digit < 10)
    (start : Nat) :
    Nat.ofDigitChars 10 (digits.map Nat.digitChar) start = digits.foldl (10 * · + ·) start := by
  induction digits generalizing start with
  | nil => rfl
  | cons digit rest ih =>
    obtain ⟨digitSmall, restSmall⟩ := List.forall_mem_cons.mp small
    rw [List.map_cons, Nat.ofDigitChars_cons_digitChar_of_lt_ten digitSmall, ih restSmall,
      List.foldl_cons]

/-- Decimal digits, and nothing else, are read as the number in base ten. -/
theorem ofDecimalDigits?_eq_some_iff {text : List Char} {value : Nat} :
    ofDecimalDigits? text = some value ↔ IsDecimal text value := by
  have spells {digits : List Nat} (small : ∀ digit ∈ digits, digit < 10) :
      Nat.ofDigitChars 10 (digits.map Nat.digitChar) 0 = Nat.ofDigits 10 digits.reverse := by
    rw [ofDigitChars_map_digitChar small]
    simp only [Nat.ofDigits_eq_foldr, List.foldr_reverse, Nat.cast_id, Nat.add_comm]
  constructor
  · intro read
    unfold ofDecimalDigits? at read
    split_ifs at read with areDigits
    obtain ⟨digits, small, rfl⟩ :=
      exists_digits_of_isDigit (List.all_eq_true.mp areDigits.2)
    rw [spells small, Option.some.injEq] at read
    exact ⟨areDigits.1, digits, (forall₂_isLowerDigit_iff (by decide)).mpr ⟨small, rfl⟩,
      read.symm⟩
  · rintro ⟨nonempty, digits, areDigits, rfl⟩
    obtain ⟨small, rfl⟩ := (forall₂_isLowerDigit_iff (by decide)).mp areDigits
    have all : (digits.map Nat.digitChar).all Char.isDigit = true := by
      rw [List.all_eq_true, List.forall_mem_map]
      intro digit member
      rw [Nat.isDigit_digitChar, decide_eq_true (small digit member)]
    rw [ofDecimalDigits?, if_pos ⟨nonempty, all⟩, spells small]

end InterfaceAddress.Text
