import InterfaceAddress.Proofs.Address.Writing
import Mathlib

/-! # Canonical addresses in text

An address has one canonical text. Its groups are lower-case numerals without
leading zeros, and where zero groups follow each other the leftmost of the
longest runs is left out (`AreCanonicalGroups`). The scan for that run finds a
run that is as long as any other and starts no later than any other of its length
(`isElidedRun_longestZeroRun`), so that an address is written in its canonical
text (`isCanonicalText_iff`).
-/

namespace InterfaceAddress.Address

variable {text : List Char} {groups before after : List Nat} {group length : Nat}

/-! ### The canonical form -/

/-- The hexadecimal numeral of a group, in lower case and without a leading zero. -/
structure IsCanonicalGroup (text : List Char) (group : Nat) : Prop where
  nonempty : text ≠ []
  unpadded : text.head? = some '0' → text = ['0']
  spelled : ∃ digits, List.Forall₂ (Text.IsLowerDigit 16) text digits ∧
    group = Nat.ofDigits 16 digits.reverse

/-- Numerals of groups with colons between them. -/
def IsCanonicalSequence (text : List Char) (groups : List Nat) : Prop :=
  ∃ elements, text = [':'].intercalate elements ∧ List.Forall₂ IsCanonicalGroup elements groups

/-- Zero groups that follow each other, with no further one in front of them or behind them. -/
structure IsZeroRun (groups before : List Nat) (length : Nat) (after : List Nat) : Prop where
  split : groups = before ++ List.replicate length 0 ++ after
  positive : 0 < length
  starts : before.getLast? ≠ some 0
  ends : after.head? ≠ some 0

/-- The run of zero groups that is left out: the leftmost of the longest runs, if it has at least
two groups. -/
structure IsElidedRun (groups before : List Nat) (length : Nat) (after : List Nat) : Prop
    extends IsZeroRun groups before length after where
  several : 2 ≤ length
  longest : ∀ otherBefore otherLength otherAfter,
    IsZeroRun groups otherBefore otherLength otherAfter → otherLength ≤ length
  leftmost : ∀ otherBefore otherAfter,
    IsZeroRun groups otherBefore length otherAfter → before.length ≤ otherBefore.length

/-- Groups in canonical form: all of them if every run of zeros is single, or all but the elided run
with a double colon in its place. -/
inductive AreCanonicalGroups : List Char → List Nat → Prop where
  | full {text : List Char} {groups : List Nat} (isSequence : IsCanonicalSequence text groups)
      (single : ∀ before length after, IsZeroRun groups before length after → length < 2)
      (noDoubleColon : ¬ "::".toList <:+: text) : AreCanonicalGroups text groups
  | elided {front behind : List Char} {groups before after : List Nat} {length : Nat}
      (isElidedRun : IsElidedRun groups before length after)
      (inFront : IsCanonicalSequence front before) (isBehind : IsCanonicalSequence behind after) :
      AreCanonicalGroups (front ++ "::".toList ++ behind) groups

/-- The canonical text of an address: a dotted quad for four octets, and for sixteen octets eight
groups, or the mapped header and a dotted quad if they embed an address of four. -/
inductive IsCanonicalText (address : Address) : List Char → Prop where
  | quad {text : List Char} (isQuad : IsQuad text address.octets) : IsCanonicalText address text
  | mapped {text : List Char} {embedded : Address} (embeds : address.Embeds embedded)
      (isQuad : IsQuad text embedded.octets) : IsCanonicalText address ("::ffff:".toList ++ text)
  | groups {text : List Char} {groups : List Nat} (eight : groups.length = 8)
      (small : ∀ group ∈ groups, group < 65536) (octets : octetsOfGroups groups = address.octets)
      (embedsNone : ∀ embedded, ¬ address.Embeds embedded)
      (canonical : AreCanonicalGroups text groups) : IsCanonicalText address text

/-! ### The scan for the longest run -/

theorem le_leadingZeros (split : groups = List.replicate length 0 ++ after) :
    length ≤ leadingZeros groups := by
  have zeros : ∀ group ∈ List.replicate length 0, decide (group = 0) = true := by
    intro group member
    exact decide_eq_true (List.eq_of_mem_replicate member)
  rw [leadingZeros, split, List.takeWhile_append_of_pos zeros, List.length_append,
    List.length_replicate]
  exact Nat.le_add_right _ _

/-- No zeros that follow each other are more than those of the run that is found. -/
theorem le_longestZeroRun (split : groups = before ++ List.replicate length 0 ++ after) :
    length ≤ (longestZeroRun groups).2 := by
  induction groups generalizing before with
  | nil =>
    have empty := congrArg List.length split
    simp only [List.length_append, List.length_replicate, List.length_nil] at empty
    omega
  | cons group rest ih =>
    simp only [longestZeroRun]
    cases before with
    | nil =>
      have here := le_leadingZeros split
      split_ifs with longer
      · exact here
      · exact Nat.le_trans here (Nat.le_of_not_le longer)
    | cons first others =>
      have there := ih (List.cons.inj split).2
      split_ifs with longer
      · exact Nat.le_trans there longer
      · exact there

/-- The run that is found starts no later than any zeros of its length. -/
theorem longestZeroRun_le
    (split : groups = before ++ List.replicate (longestZeroRun groups).2 0 ++ after) :
    (longestZeroRun groups).1 ≤ before.length := by
  induction groups generalizing before with
  | nil => exact Nat.zero_le _
  | cons group rest ih =>
    simp only [longestZeroRun] at split ⊢
    split_ifs at split ⊢ with longer
    · exact Nat.zero_le _
    · cases before with
      | nil => exact absurd (le_leadingZeros split) longer
      | cons first others => exact Nat.succ_le_succ (ih (List.cons.inj split).2)

/-- Zeros that are as many as possible are a run. -/
theorem isZeroRun_of_split (split : groups = before ++ List.replicate length 0 ++ after)
    (positive : 0 < length) (most : (longestZeroRun groups).2 ≤ length) :
    IsZeroRun groups before length after where
  split := split
  positive := positive
  starts := by
    intro last
    obtain ⟨others, rfl⟩ := List.getLast?_eq_some_iff.mp last
    have more : groups = others ++ List.replicate (length + 1) 0 ++ after := by
      rw [split, List.replicate_succ]
      simp only [List.append_assoc, List.cons_append, List.nil_append]
    have bound := le_longestZeroRun more
    omega
  ends := by
    intro first
    obtain ⟨others, rfl⟩ := List.head?_eq_some_iff.mp first
    have more : groups = before ++ List.replicate (length + 1) 0 ++ others := by
      rw [split, List.replicate_succ']
      simp only [List.append_assoc, List.singleton_append]
    have bound := le_longestZeroRun more
    omega

/-- The run that is found is the one that is left out. -/
theorem isElidedRun_longestZeroRun (several : 2 ≤ (longestZeroRun groups).2) :
    IsElidedRun groups (groups.take (longestZeroRun groups).1) (longestZeroRun groups).2
      (groups.drop ((longestZeroRun groups).1 + (longestZeroRun groups).2)) where
  toIsZeroRun :=
    isZeroRun_of_split (eq_append_longestZeroRun groups) (by omega) (Nat.le_refl _)
  several := several
  longest _ _ _ run := le_longestZeroRun run.split
  leftmost _ _ run := by
    rw [List.length_take]
    exact Nat.le_trans (Nat.min_le_left _ _) (longestZeroRun_le run.split)

theorem single_of_longestZeroRun (short : (longestZeroRun groups).2 < 2) :
    ∀ before length after, IsZeroRun groups before length after → length < 2 :=
  fun _ _ _ run => Nat.lt_of_le_of_lt (le_longestZeroRun run.split) short

/-- Only one run is left out. -/
theorem IsElidedRun.unique {otherBefore otherAfter : List Nat} {otherLength : Nat}
    (run : IsElidedRun groups before length after)
    (other : IsElidedRun groups otherBefore otherLength otherAfter) :
    before = otherBefore ∧ after = otherAfter := by
  have sameLength : length = otherLength := Nat.le_antisymm
    (other.longest _ _ _ run.toIsZeroRun) (run.longest _ _ _ other.toIsZeroRun)
  subst sameLength
  have sameStart : before.length = otherBefore.length := Nat.le_antisymm
    (run.leftmost _ _ other.toIsZeroRun) (other.leftmost _ _ run.toIsZeroRun)
  have same := run.split.symm.trans other.split
  rw [List.append_assoc, List.append_assoc] at same
  obtain ⟨sameBefore, sameRest⟩ := List.append_inj same sameStart
  exact ⟨sameBefore, List.append_cancel_left sameRest⟩

/-! ### Numerals and sequences -/

/-- Zero is the only digit that is written as zero. -/
theorem digitChar_eq_zero_iff {digit : Nat} (small : digit < 16) :
    Nat.digitChar digit = '0' ↔ digit = 0 := by
  have all : ∀ digit < 16, Nat.digitChar digit = '0' ↔ digit = 0 := by
    decide
  exact all digit small

theorem toDigits_eq_map_digits (positive : 0 < group) :
    Nat.toDigits 16 group = (Nat.digits 16 group).reverse.map Nat.digitChar := by
  induction group using Nat.strong_induction_on with
  | _ group ih =>
    rw [Nat.digits_def' (by decide) positive, List.reverse_cons, List.map_append]
    by_cases small : group < 16
    · rw [Nat.toDigits_of_lt_base small, Nat.div_eq_of_lt small, Nat.mod_eq_of_lt small]
      rfl
    · rw [Nat.toDigits_of_base_le (by decide) (Nat.le_of_not_lt small),
        ih (group / 16) (by omega) (by omega)]
      rfl

theorem isCanonicalGroup_toDigits (group : Nat) :
    IsCanonicalGroup (Nat.toDigits 16 group) group := by
  rcases Nat.eq_zero_or_pos group with rfl | positive
  · exact ⟨nofun, fun _ => rfl, [0], .cons (by decide) .nil, rfl⟩
  · have small : ∀ digit ∈ (Nat.digits 16 group).reverse, digit < 16 := by
      intro digit member
      exact Nat.digits_lt_base (by decide) (List.mem_reverse.mp member)
    refine ⟨Nat.toDigits_ne_nil, ?_, (Nat.digits 16 group).reverse, ?_, ?_⟩
    · intro padded
      -- the leading digit of a positive number is not zero
      have nonempty : Nat.digits 16 group ≠ [] := Nat.digits_ne_nil_iff_ne_zero.mpr positive.ne'
      have leading := Nat.getLast_digit_ne_zero 16 positive.ne'
      have below := small _ (List.mem_reverse.mpr (List.getLast_mem nonempty))
      rw [toDigits_eq_map_digits positive, List.head?_map, List.head?_reverse,
        List.getLast?_eq_some_getLast nonempty, Option.map_some, Option.some.injEq,
        digitChar_eq_zero_iff below] at padded
      exact absurd padded leading
    · rw [Text.forall₂_isLowerDigit_iff (Nat.le_refl 16)]
      exact ⟨small, toDigits_eq_map_digits positive⟩
    · rw [List.reverse_reverse, Nat.ofDigits_digits]

/-- A group has one numeral. -/
theorem IsCanonicalGroup.eq_toDigits (canonical : IsCanonicalGroup text group) :
    text = Nat.toDigits 16 group := by
  obtain ⟨digits, areDigits, rfl⟩ := canonical.spelled
  obtain ⟨small, rfl⟩ := (Text.forall₂_isLowerDigit_iff (Nat.le_refl 16)).mp areDigits
  cases digits with
  | nil => exact absurd rfl canonical.nonempty
  | cons first rest =>
    by_cases zero : first = 0
    · subst zero
      have single := canonical.unpadded rfl
      rw [List.map_cons, List.cons.injEq, List.map_eq_nil_iff] at single
      rw [single.2]
      rfl
    · have numeral : Nat.digits 16 (Nat.ofDigits 16 (first :: rest).reverse) =
          (first :: rest).reverse := by
        apply Nat.digits_ofDigits 16 (by decide)
        · exact fun digit member => small digit (List.mem_reverse.mp member)
        · intro nonempty
          rwa [List.getLast_reverse, List.head_cons]
      have positive : 0 < Nat.ofDigits 16 (first :: rest).reverse := by
        rw [Nat.pos_iff_ne_zero, ← Nat.digits_ne_nil_iff_ne_zero (b := 16), numeral]
        exact List.reverse_ne_nil_iff.mpr (List.cons_ne_nil first rest)
      rw [toDigits_eq_map_digits positive, numeral, List.reverse_reverse]

theorem isCanonicalSequence_iff : IsCanonicalSequence text groups ↔ text = writeGroups groups := by
  constructor
  · rintro ⟨elements, rfl, areGroups⟩
    have numerals : elements = groups.map (Nat.toDigits 16) := by
      induction areGroups with
      | nil => rfl
      | cons isGroup areGroups ih => rw [List.map_cons, isGroup.eq_toDigits, ih]
    rw [writeGroups, numerals]
  · rintro rfl
    refine ⟨_, rfl, ?_⟩
    rw [List.forall₂_map_left_iff, List.forall₂_same]
    exact fun group _ => isCanonicalGroup_toDigits group

/-! ### Groups -/

theorem splitAtElision?_ne_none (left right : List Char) :
    splitAtElision? (left ++ ':' :: ':' :: right) ≠ none := by
  induction left with
  | nil => exact Option.some_ne_none _
  | cons char left ih =>
    by_cases double : char = ':' ∧ (left ++ ':' :: ':' :: right).head? = some ':'
    · obtain ⟨rfl, second⟩ := double
      obtain ⟨others, same⟩ := List.head?_eq_some_iff.mp second
      rw [List.cons_append, same]
      exact Option.some_ne_none _
    · rw [List.cons_append, splitAtElision?_cons (not_and_or.mp double), ne_eq,
        Option.map_eq_none_iff]
      exact ih

theorem not_infix_writeGroups (small : ∀ group ∈ groups, group < 65536) :
    ¬ "::".toList <:+: writeGroups groups := by
  rintro ⟨left, right, split⟩
  have sequence : IsSequence true (writeGroups groups) groups := isSequence_writeGroups small
  have none := sequence.splitAtElision?_eq_none
  rw [← split, List.append_assoc] at none
  exact splitAtElision?_ne_none left right none

/-- Groups have one canonical form, which is what is written. -/
theorem areCanonicalGroups_iff (small : ∀ group ∈ groups, group < 65536) :
    AreCanonicalGroups text groups ↔ text = writeElided groups := by
  simp only [writeElided]
  constructor
  · intro canonical
    cases canonical with
    | full isSequence single noDoubleColon =>
      have short : (longestZeroRun groups).2 < 2 := by
        by_contra several
        have run := isElidedRun_longestZeroRun (Nat.le_of_not_lt several)
        exact several (single _ _ _ run.toIsZeroRun)
      rw [if_pos short]
      exact isCanonicalSequence_iff.mp isSequence
    | elided isElidedRun inFront isBehind =>
      have several := Nat.le_trans isElidedRun.several (le_longestZeroRun isElidedRun.split)
      obtain ⟨rfl, rfl⟩ := isElidedRun.unique (isElidedRun_longestZeroRun several)
      rw [if_neg (Nat.not_lt.mpr several), isCanonicalSequence_iff.mp inFront,
        isCanonicalSequence_iff.mp isBehind]
  · rintro rfl
    split_ifs with short
    · exact .full (isCanonicalSequence_iff.mpr rfl) (single_of_longestZeroRun short)
        (not_infix_writeGroups small)
    · exact .elided (isElidedRun_longestZeroRun (Nat.le_of_not_lt short))
        (isCanonicalSequence_iff.mpr rfl) (isCanonicalSequence_iff.mpr rfl)

theorem groups_octetsOfGroups (small : ∀ group ∈ groups, group < 65536) :
    Address.groups (octetsOfGroups groups) = groups := by
  induction groups with
  | nil => rfl
  | cons group rest ih =>
    have bound := small group List.mem_cons_self
    have high : (UInt8.ofNat (group / 256)).toNat = group / 256 := by
      rw [UInt8.toNat_ofNat']
      omega
    have low : (UInt8.ofNat (group % 256)).toNat = group % 256 := by
      rw [UInt8.toNat_ofNat']
      omega
    rw [octetsOfGroups_cons, Address.groups, ih fun other member =>
      small other (List.mem_cons_of_mem group member), high, low, Nat.div_add_mod]

/-! ### Addresses -/

section Write

variable {address : Address} {octets : List UInt8}

/-- Octets have one dotted quad. -/
theorem isQuad_iff (four : octets.length = 4) : IsQuad text octets ↔ text = writeQuad octets := by
  constructor
  · rintro ⟨parts, rfl, -, areOctets⟩
    have numerals : parts = octets.map fun octet => Nat.toDigits 10 octet.toNat := by
      clear four
      induction areOctets with
      | nil => rfl
      | cons isOctet areOctets ih => rw [List.map_cons, isOctet, ih]
    rw [writeQuad, numerals]
  · rintro rfl
    exact isQuad_writeQuad four

theorem isCanonicalText_write (address : Address) : IsCanonicalText address address.write := by
  rcases address.length_octets with four | sixteen
  · rw [write_of_four four]
    exact .quad ((isQuad_iff four).mpr rfl)
  · by_cases embeds : ∃ embedded, address.Embeds embedded
    · obtain ⟨embedded, embeds⟩ := embeds
      rw [write_of_embeds embeds]
      exact .mapped embeds ((isQuad_iff embeds.length_octets.2).mpr rfl)
    · have embedsNone := not_exists.mp embeds
      have octets := octetsOfGroups_groups 8 sixteen
      rw [write_of_sixteen sixteen embedsNone]
      exact .groups (length_groups sixteen) (fun _ => lt_of_mem_groups) octets embedsNone
        ((areCanonicalGroups_iff fun _ => lt_of_mem_groups).mpr rfl)

theorem IsCanonicalText.eq_write (canonical : IsCanonicalText address text) :
    text = address.write := by
  cases canonical with
  | quad isQuad =>
    have four : address.octets.length = 4 := by
      obtain ⟨a, b, c, d, same⟩ := isQuad.exists_eq
      rw [same]
      rfl
    rw [write_of_four four]
    exact (isQuad_iff four).mp isQuad
  | mapped embeds isQuad =>
    rw [write_of_embeds embeds, (isQuad_iff embeds.length_octets.2).mp isQuad]
  | groups eight small octets embedsNone canonical =>
    have sixteen : address.octets.length = 16 := by
      rw [← octets, length_octetsOfGroups, eight]
    rw [write_of_sixteen sixteen embedsNone, ← octets, groups_octetsOfGroups small]
    exact (areCanonicalGroups_iff small).mp canonical

end Write

/-- **An address is written in its canonical text.** Every address has exactly one canonical text,
and this is the text that is written. -/
theorem isCanonicalText_iff (address : Address) (given : String) :
    IsCanonicalText address given.toList ↔ given = address.text := by
  rw [← String.toList_inj, Address.text, String.toList_ofList]
  constructor
  · exact IsCanonicalText.eq_write
  · intro same
    rw [same]
    exact isCanonicalText_write address

/-- Of two runs of three zero groups the first is left out, and a single zero group is not. -/
example : Address.text ⟨[0x20, 1, 0, 0, 0, 0, 0, 0, 0xab, 0xcd, 0, 0, 0, 0, 0, 0], .inr rfl⟩ =
    "2001::abcd:0:0:0" := by
  decide +kernel

end InterfaceAddress.Address
