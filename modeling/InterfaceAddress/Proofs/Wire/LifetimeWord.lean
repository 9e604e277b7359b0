import InterfaceAddress.Proofs.Number.Order
import InterfaceAddress.Wire.Decode

/-! # Lifetimes and their words

Every acceptable lifetime has a word of 64 bits, and a word that is neither a
sentinel nor a safe integer has no lifetime. The rules for a pair of lifetimes
are rules about the two words: the word of an unknown lifetime is the only one
below zero that is accepted, and that of a lifetime without end is the largest
(`violation?_reason_of_hasWord`).
-/

namespace InterfaceAddress

open Wire

/-- Whether a word stands for a lifetime. -/
def Wire.IsLifetimeWord (word : Int) : Prop :=
  word = unknownWord ∨ word = permanentWord ∨ word.natAbs ≤ Binary64.maxSafeInteger.natAbs

instance (word : Int) : Decidable (IsLifetimeWord word) := inferInstanceAs (Decidable (_ ∨ _))

/-- The word that stands for a lifetime. An instant has the word of its integer value, which is
safe and no sentinel. -/
inductive Lifetime.HasWord : Lifetime → Int → Prop where
  | unknown : HasWord .unknown unknownWord
  | permanent : HasWord .permanent permanentWord
  | instant {time : Binary64} {word : Int} (isInteger : time.toInt? = some word)
      (safe : word.natAbs ≤ Binary64.maxSafeInteger.natAbs) (known : word ≠ unknownWord) :
      HasWord (.instant time) word

namespace Lifetime

variable {lifetime other : Lifetime} {word otherWord : Int}

theorem toInt?_unknownNumber : unknownNumber.toInt? = some unknownWord :=
  Binary64.toInt?_neg (Binary64.toInt?_ofNat (by decide : 1 < 2 ^ 53))

namespace HasWord

theorem lifetimeWord_eq (hasWord : lifetime.HasWord word) : lifetimeWord lifetime = word := by
  cases hasWord with
  | unknown => rfl
  | permanent => rfl
  | instant isInteger =>
    rw [lifetimeWord, Binary64.truncate?_of_toInt? isInteger, Option.getD_some]

/-- A word fits 64 bits with a sign. -/
theorem fits (hasWord : lifetime.HasWord word) :
    -capacity 8 ≤ 2 * word ∧ 2 * word < capacity 8 := by
  have size : capacity 8 = 0x10000000000000000 := rfl
  rw [size]
  cases hasWord with
  | unknown => decide
  | permanent => decide
  | instant _ safe =>
    rw [Binary64.maxSafeInteger] at safe
    omega

theorem isLifetimeWord (hasWord : lifetime.HasWord word) : IsLifetimeWord word := by
  cases hasWord with
  | unknown => exact .inl rfl
  | permanent => exact .inr (.inl rfl)
  | instant _ safe => exact .inr (.inr safe)

theorem isUnknown_iff (hasWord : lifetime.HasWord word) :
    lifetime.isUnknown = true ↔ word = unknownWord := by
  cases hasWord with
  | unknown => simp [isUnknown]
  | permanent => decide
  | instant _ _ known => simp [isUnknown, known]

theorem eq_unknown (hasWord : lifetime.HasWord unknownWord) : lifetime = .unknown := by
  cases hasWord with
  | unknown => rfl
  | instant _ _ known => exact (known rfl).elim

/-- Acceptable are the sentinels and what is not negative. -/
theorem isAcceptable_iff (hasWord : lifetime.HasWord word) :
    lifetime.isAcceptable = true ↔ unknownWord ≤ word := by
  cases hasWord with
  | unknown => simp [isAcceptable]
  | permanent => decide
  | instant isInteger safe known =>
    rw [isAcceptable, Binary64.toSafeInt?_eq_some_iff.mpr ⟨isInteger, safe⟩, Option.map_some,
      Option.getD_some, decide_eq_true_eq]
    rw [unknownWord] at known ⊢
    omega

/-- The number of a lifetime is that of its word, unless it is without end. -/
theorem toInt?_toNumber (hasWord : lifetime.HasWord word) :
    lifetime = .permanent ∧ word = permanentWord ∨
      lifetime.toNumber.toInt? = some word ∧ word < permanentWord := by
  cases hasWord with
  | unknown => exact .inr ⟨toInt?_unknownNumber, by decide⟩
  | permanent => exact .inl ⟨rfl, rfl⟩
  | instant isInteger safe _ =>
    refine .inr ⟨isInteger, ?_⟩
    rw [Binary64.maxSafeInteger] at safe
    rw [permanentWord]
    omega

/-- Lifetimes are ordered like their words. -/
theorem toNumber_lt_iff (hasWord : lifetime.HasWord word) (otherHasWord : other.HasWord otherWord) :
    lifetime.toNumber.lt other.toNumber = true ↔ word < otherWord := by
  rcases hasWord.toInt?_toNumber with ⟨rfl, rfl⟩ | ⟨isInteger, below⟩ <;>
    rcases otherHasWord.toInt?_toNumber with ⟨rfl, rfl⟩ | ⟨otherIsInteger, otherBelow⟩
  · simp [toNumber, permanentNumber, Binary64.infinity_lt]
  · have above : ¬ permanentWord < otherWord := by omega
    simp only [above, iff_false, Bool.not_eq_true]
    exact Binary64.infinity_lt _
  · simp only [below, iff_true]
    exact Binary64.lt_infinity_of_toInt? isInteger
  · exact Binary64.lt_iff_of_toInt? isInteger otherIsInteger

/-- Lifetimes with one word are equal as numbers. -/
theorem toNumber_same (hasWord : lifetime.HasWord word) (otherHasWord : other.HasWord word) :
    lifetime.toNumber.same other.toNumber = true := by
  rcases hasWord.toInt?_toNumber with ⟨rfl, rfl⟩ | ⟨isInteger, below⟩ <;>
    rcases otherHasWord.toInt?_toNumber with ⟨rfl, equal⟩ | ⟨otherIsInteger, otherBelow⟩
  · rfl
  · omega
  · omega
  · exact (Binary64.same_iff_of_toInt? isInteger otherIsInteger).mpr rfl

end HasWord

/-- Acceptable lifetimes have words. -/
theorem exists_hasWord_of_isAcceptable (acceptable : lifetime.isAcceptable = true) :
    ∃ word, lifetime.HasWord word := by
  cases lifetime with
  | unknown => exact ⟨_, .unknown⟩
  | permanent => exact ⟨_, .permanent⟩
  | instant time =>
    rw [isAcceptable] at acceptable
    cases found : time.toSafeInt? with
    | none => simp [found] at acceptable
    | some word =>
      obtain ⟨isInteger, safe⟩ := Binary64.toSafeInt?_eq_some_iff.mp found
      refine ⟨word, .instant isInteger safe ?_⟩
      rintro rfl
      simp [found, unknownWord] at acceptable

end Lifetime

/-! ### The rules for a pair -/

namespace Lifetimes

variable {lifetimes : Lifetimes} {deprecation expiration : Int}

/-- The first rule that a pair of lifetimes breaks, told by their words. -/
theorem violation?_reason_of_hasWord (deprecated : lifetimes.deprecation.HasWord deprecation)
    (expires : lifetimes.expiration.HasWord expiration) :
    lifetimes.violation?.map LifetimeViolation.reason =
      if deprecation < unknownWord ∨ expiration < unknownWord then some .negativeTimestamp
      else if ¬ (deprecation = unknownWord ↔ expiration = unknownWord) then
        some .asymmetricLifetime
      else if expiration < deprecation then some .deprecationAfterExpiration
      else none := by
  obtain ⟨first, second⟩ := lifetimes
  have firstAcceptable := deprecated.isAcceptable_iff
  have secondAcceptable := expires.isAcceptable_iff
  have firstUnknown := deprecated.isUnknown_iff
  have secondUnknown := expires.isUnknown_iff
  have later := expires.toNumber_lt_iff deprecated
  dsimp only at *
  have oneUnknown : (first.isUnknown != second.isUnknown) = true ↔
      ¬ (deprecation = unknownWord ↔ expiration = unknownWord) := by
    rw [← firstUnknown, ← secondUnknown, bne_iff_ne, ne_eq, Bool.eq_iff_iff]
  simp only [violation?, Bool.not_eq_true', ← Bool.not_eq_true, firstAcceptable, secondAcceptable,
    oneUnknown, Bool.and_eq_true, firstUnknown, later]
  split_ifs <;>
    simp only [Option.map_some, Option.map_none, LifetimeViolation.reason, reduceCtorEq,
      Option.some.injEq] <;>
    omega

/-- Both lifetimes are unknown or neither is, none is negative, and an address that expires is
deprecated no later. -/
def Consistent (lifetimes : Lifetimes) : Prop :=
  ∃ deprecation expiration, lifetimes.deprecation.HasWord deprecation ∧
    lifetimes.expiration.HasWord expiration ∧ unknownWord ≤ deprecation ∧
    deprecation ≤ expiration ∧ (deprecation = unknownWord ↔ expiration = unknownWord)

theorem isAcceptable_of_violation?_eq_none (accepted : lifetimes.violation? = none) :
    lifetimes.deprecation.isAcceptable = true ∧ lifetimes.expiration.isAcceptable = true := by
  obtain ⟨first, second⟩ := lifetimes
  simp only [violation?] at accepted
  split at accepted
  · cases accepted
  · split at accepted
    · cases accepted
    · simp_all

theorem violation?_eq_none_iff : lifetimes.violation? = none ↔ lifetimes.Consistent := by
  constructor
  · intro accepted
    obtain ⟨firstAcceptable, secondAcceptable⟩ := isAcceptable_of_violation?_eq_none accepted
    obtain ⟨deprecation, deprecated⟩ :=
      Lifetime.exists_hasWord_of_isAcceptable firstAcceptable
    obtain ⟨expiration, expires⟩ := Lifetime.exists_hasWord_of_isAcceptable secondAcceptable
    have reason := violation?_reason_of_hasWord deprecated expires
    rw [accepted, Option.map_none] at reason
    refine ⟨deprecation, expiration, deprecated, expires, ?_⟩
    split_ifs at reason with negative together ordered
    exact ⟨by omega, by omega, together⟩
  · rintro ⟨deprecation, expiration, deprecated, expires, known, ordered, together⟩
    have reason := violation?_reason_of_hasWord deprecated expires
    rw [if_neg (by omega), if_neg (not_not_intro together), if_neg (by omega)] at reason
    exact Option.map_eq_none_iff.mp reason

end Lifetimes

/-! ### Reading a word -/

namespace Wire

theorem lifetimeOfWord_of_not_isLifetimeWord {word : Int} (field : LifetimeField)
    (none : ¬ IsLifetimeWord word) :
    lifetimeOfWord field word = .error (.timestampOutOfRange field word) := by
  simp only [IsLifetimeWord, not_or] at none
  rw [lifetimeOfWord, if_neg none.1, if_neg none.2.1, if_pos (by omega)]

/-- The lifetime that is read from a word has this word. -/
theorem exists_lifetimeOfWord {word : Int} (field : LifetimeField)
    (isLifetimeWord : IsLifetimeWord word) :
    ∃ lifetime, lifetimeOfWord field word = .ok lifetime ∧ lifetime.HasWord word := by
  rw [lifetimeOfWord]
  split_ifs with unknown permanent unsafeWord
  · exact ⟨_, rfl, unknown ▸ .unknown⟩
  · exact ⟨_, rfl, permanent ▸ .permanent⟩
  · rcases isLifetimeWord with equal | equal | safe
    · exact (unknown equal).elim
    · exact (permanent equal).elim
    · omega
  · have safe := Nat.le_of_not_lt unsafeWord
    have small : word.natAbs < 2 ^ 53 := Nat.lt_of_le_of_lt safe (by decide)
    exact ⟨_, rfl, .instant (Binary64.toInt?_ofInt small) safe unknown⟩

end Wire

end InterfaceAddress
