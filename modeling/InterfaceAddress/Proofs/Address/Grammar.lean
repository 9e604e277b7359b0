import InterfaceAddress.Address.Reader
import InterfaceAddress.Proofs.Text.Numerals
import Mathlib

/-! # The grammar of addresses

An address in text is four decimal octets with points between them, or eight
16-bit groups with colons between them, written in full or with a double colon
for the groups of zero that are left out. The grammar is given by the parts a
text is put together from and says nothing about how a text is taken apart. A
reader that searches and splits accepts exactly the texts of the grammar and
gives what they denote (`readGroupText?_eq_some_iff`).
-/

namespace InterfaceAddress.Address

/-! ### The grammar -/

/-- A decimal octet without leading zeros. -/
def IsOctet (text : List Char) (octet : UInt8) : Prop := text = Nat.toDigits 10 octet.toNat

/-- Four decimal octets with points between them. -/
def IsQuad (text : List Char) (octets : List UInt8) : Prop :=
  ∃ parts, text = ['.'].intercalate parts ∧ parts.length = 4 ∧ List.Forall₂ IsOctet parts octets

/-- One to four hexadecimal digits of either case, and the number that they spell. -/
structure IsGroup (text : List Char) (group : Nat) : Prop where
  nonempty : text ≠ []
  short : text.length ≤ 4
  spelled : ∃ digits, List.Forall₂ Text.IsHexDigit text digits ∧
    group = Nat.ofDigits 16 digits.reverse

/-- Elements and the groups they stand for. A dotted quad, where it is allowed, is the last element
and stands for two groups. -/
inductive AreElements (quadAllowed : Bool) : List (List Char) → List Nat → Prop where
  | nil : AreElements quadAllowed [] []
  | quad {text : List Char} {a b c d : UInt8} (allowed : quadAllowed = true)
      (isQuad : IsQuad text [a, b, c, d]) :
      AreElements quadAllowed [text] [256 * a.toNat + b.toNat, 256 * c.toNat + d.toNat]
  | group {text : List Char} {group : Nat} {rest : List (List Char)} {groups : List Nat}
      (isGroup : IsGroup text group) (areElements : AreElements quadAllowed rest groups) :
      AreElements quadAllowed (text :: rest) (group :: groups)

/-- Elements with colons between them. -/
def IsSequence (quadAllowed : Bool) (text : List Char) (groups : List Nat) : Prop :=
  ∃ elements, text = [':'].intercalate elements ∧ AreElements quadAllowed elements groups

/-- Eight groups in full, or at most seven with a double colon for the groups of zero between
them. -/
inductive AreGroups : List Char → List Nat → Prop where
  | full {text : List Char} {groups : List Nat} (isSequence : IsSequence true text groups)
      (eight : groups.length = 8) : AreGroups text groups
  | elided {leftText rightText : List Char} {left right : List Nat}
      (before : IsSequence false leftText left) (after : IsSequence true rightText right)
      (atMostSeven : left.length + right.length ≤ 7) :
      AreGroups (leftText ++ ':' :: ':' :: rightText)
        (left ++ List.replicate (8 - (left.length + right.length)) 0 ++ right)

/-- The octets of groups, the more significant octet of each first. -/
def octetsOfGroups (groups : List Nat) : List UInt8 :=
  groups.flatMap fun group => [UInt8.ofNat (group / 256), UInt8.ofNat (group % 256)]

/-- The inside of one enclosing pair of brackets, or all of a text that has none. -/
inductive IsInside : List Char → List Char → Prop where
  | enclosed (inside : List Char) : IsInside ('[' :: (inside ++ [']'])) inside
  | bare {text : List Char} (notEnclosed : ∀ inside, text ≠ '[' :: (inside ++ [']'])) :
      IsInside text text

/-- The part in front of the first percent sign, or all of a text that has none. -/
def IsWithoutZone (text body : List Char) : Prop :=
  '%' ∉ body ∧ (text = body ∨ ∃ zone, text = body ++ '%' :: zone)

/-- What a text denotes. The blanks around it do not count; a colon anywhere between them, also in
a zone, makes it a text in groups. -/
inductive Denotes (text : List Char) : List UInt8 → Prop where
  | quad {inner : List Char} {octets : List UInt8} (isTrimmed : Text.IsTrimmed text inner)
      (colonless : ':' ∉ inner) (isQuad : IsQuad inner octets) : Denotes text octets
  | groups {inner inside body : List Char} {groups : List Nat}
      (isTrimmed : Text.IsTrimmed text inner) (colon : ':' ∈ inner)
      (isInside : IsInside inner inside) (isWithoutZone : IsWithoutZone inside body)
      (areGroups : AreGroups body groups) : Denotes text (octetsOfGroups groups)

/-! ### Octets of groups -/

theorem octetsOfGroups_cons (group : Nat) (rest : List Nat) : octetsOfGroups (group :: rest) =
    UInt8.ofNat (group / 256) :: UInt8.ofNat (group % 256) :: octetsOfGroups rest := rfl

theorem length_octetsOfGroups (groups : List Nat) :
    (octetsOfGroups groups).length = 2 * groups.length := by
  induction groups with
  | nil => rfl
  | cons group rest ih =>
    rw [octetsOfGroups_cons, List.length_cons, List.length_cons, List.length_cons, ih]
    omega

theorem octetsOfGroups_append (left right : List Nat) :
    octetsOfGroups (left ++ right) = octetsOfGroups left ++ octetsOfGroups right :=
  List.flatMap_append

theorem octetsOfGroups_replicate_zero (count : Nat) :
    octetsOfGroups (List.replicate count 0) = List.replicate (2 * count) 0 := by
  induction count with
  | zero => rfl
  | succ count ih =>
    rw [List.replicate_succ, octetsOfGroups_cons, ih, Nat.mul_succ, List.replicate_succ,
      List.replicate_succ]
    rfl

/-! ### Parts of a text -/

theorem exists_of_mem_of_forall₂ {α β : Type} {relation : α → β → Prop} {first : List α}
    {second : List β} (related : List.Forall₂ relation first second) {item : α}
    (member : item ∈ first) : ∃ other, relation item other := by
  induction related with
  | nil => cases member
  | cons here _ ih =>
    rcases List.mem_cons.mp member with rfl | there
    · exact ⟨_, here⟩
    · exact ih there

theorem eq_or_mem_of_mem_intercalate {separator char : Char} {parts : List (List Char)}
    (member : char ∈ [separator].intercalate parts) :
    char = separator ∨ ∃ part ∈ parts, char ∈ part := by
  induction parts with
  | nil => cases member
  | cons first rest ih =>
    cases rest with
    | nil =>
      rw [List.intercalate_singleton] at member
      exact .inr ⟨first, List.mem_singleton_self first, member⟩
    | cons second others =>
      rw [List.intercalate_cons_cons, List.mem_append, List.mem_append,
        List.mem_singleton] at member
      rcases member with (here | isSeparator) | there
      · exact .inr ⟨first, List.mem_cons_self, here⟩
      · exact .inl isSeparator
      · rcases ih there with isSeparator | ⟨part, listed, inside⟩
        · exact .inl isSeparator
        · exact .inr ⟨part, List.mem_cons_of_mem first listed, inside⟩

/-! ### Dotted quads -/

theorem IsOctet.isDigit {text : List Char} {octet : UInt8} (isOctet : IsOctet text octet) :
    ∀ char ∈ text, char.isDigit = true := by
  intro char member
  rw [isOctet] at member
  exact Nat.isDigit_of_mem_toDigits (by decide) (by decide) member

theorem readOctet?_eq_some_iff {text : List Char} {octet : UInt8} :
    readOctet? text = some octet ↔ IsOctet text octet := by
  constructor
  · intro read
    rw [readOctet?, Option.bind_eq_bind, Option.bind_eq_some_iff] at read
    obtain ⟨value, spelled, read⟩ := read
    rw [Text.ofDecimalDigits?] at spelled
    split_ifs at spelled with digits
    split_ifs at read with small
    cases spelled
    cases read
    have numeral := Text.toDigits_ofDigitChars (List.all_eq_true.mp digits.2) digits.1 small.2
    rw [IsOctet, UInt8.toNat_ofNat_of_lt' (Nat.lt_succ_of_le small.1), numeral]
  · rintro rfl
    have all : ∀ value < 256, readOctet? (Nat.toDigits 10 value) = some (UInt8.ofNat value) := by
      decide +kernel
    rw [all octet.toNat octet.toNat_lt, UInt8.ofNat_toNat]

theorem mapM_readOctet?_eq_some_iff {parts : List (List Char)} {octets : List UInt8} :
    parts.mapM readOctet? = some octets ↔ List.Forall₂ IsOctet parts octets := by
  induction parts generalizing octets with
  | nil => simp [eq_comm]
  | cons part rest ih =>
    rw [List.mapM_cons, Option.bind_eq_bind, Option.bind_eq_some_iff]
    constructor
    · rintro ⟨octet, read, others⟩
      rw [Option.bind_eq_bind, Option.bind_eq_some_iff] at others
      obtain ⟨more, readMore, given⟩ := others
      cases given
      exact .cons (readOctet?_eq_some_iff.mp read) (ih.mp readMore)
    · rintro (_ | ⟨isOctet, areOctets⟩)
      refine ⟨_, readOctet?_eq_some_iff.mpr isOctet, ?_⟩
      rw [ih.mpr areOctets]
      rfl

theorem readQuad?_eq_some_iff {text : List Char} {octets : List UInt8} :
    readQuad? text = some octets ↔ IsQuad text octets := by
  constructor
  · intro read
    simp only [readQuad?] at read
    split_ifs at read with four
    exact ⟨text.splitOn '.', (List.intercalate_splitOn '.').symm, four,
      mapM_readOctet?_eq_some_iff.mp read⟩
  · rintro ⟨parts, rfl, four, areOctets⟩
    have pointless : ∀ part ∈ parts, '.' ∉ part := by
      intro part member point
      obtain ⟨octet, isOctet⟩ := exists_of_mem_of_forall₂ areOctets member
      cases isOctet.isDigit '.' point
    have split := List.splitOn_intercalate '.' pointless (by rintro rfl; cases four)
    rw [readQuad?, split, if_pos four, mapM_readOctet?_eq_some_iff.mpr areOctets]

theorem IsQuad.exists_eq {text : List Char} {octets : List UInt8} (isQuad : IsQuad text octets) :
    ∃ a b c d, octets = [a, b, c, d] := by
  obtain ⟨parts, -, four, areOctets⟩ := isQuad
  rw [areOctets.length_eq] at four
  match octets, four with
  | [a, b, c, d], _ => exact ⟨a, b, c, d, rfl⟩

/-- A dotted quad has a point and no colon. -/
theorem IsQuad.point_mem {text : List Char} {octets : List UInt8} (isQuad : IsQuad text octets) :
    '.' ∈ text ∧ ':' ∉ text := by
  obtain ⟨parts, rfl, four, areOctets⟩ := isQuad
  constructor
  · match parts, four with
    | first :: second :: rest, _ => simp [List.intercalate_cons_cons]
  · intro colon
    rcases eq_or_mem_of_mem_intercalate colon with separator | ⟨part, member, colon⟩
    · cases separator
    · obtain ⟨octet, isOctet⟩ := exists_of_mem_of_forall₂ areOctets member
      cases isOctet.isDigit ':' colon

/-! ### Groups -/

theorem readGroup?_eq_some_iff {text : List Char} {octets : List UInt8} :
    readGroup? text = some octets ↔
      ∃ group, IsGroup text group ∧ octets = octetsOfGroups [group] := by
  simp only [readGroup?]
  constructor
  · intro read
    by_cases outside : text.length = 0 ∨ 4 < text.length
    · rw [if_pos outside] at read
      cases read
    · rw [if_neg outside] at read
      rw [not_or, Nat.not_lt, List.length_eq_zero_iff] at outside
      obtain ⟨group, spelled, given⟩ := Option.bind_eq_some_iff.mp read
      cases given
      exact ⟨group, ⟨outside.1, outside.2, Text.ofHexDigits?_eq_some_iff.mp spelled⟩, rfl⟩
  · rintro ⟨group, isGroup, rfl⟩
    have inside : ¬ (text.length = 0 ∨ 4 < text.length) := by
      rw [not_or, Nat.not_lt, List.length_eq_zero_iff]
      exact ⟨isGroup.nonempty, isGroup.short⟩
    rw [if_neg inside, Text.ofHexDigits?_eq_some_iff.mpr isGroup.spelled]
    rfl

/-- A group has neither a point nor a colon. -/
theorem IsGroup.not_mem {text : List Char} {group : Nat} (isGroup : IsGroup text group) :
    '.' ∉ text ∧ ':' ∉ text := by
  obtain ⟨digits, areDigits, -⟩ := isGroup.spelled
  have known {char : Char} (member : char ∈ text) : Text.hexDigit? char ≠ none := by
    obtain ⟨value, isHexDigit⟩ := exists_of_mem_of_forall₂ areDigits member
    rw [Text.hexDigit?_eq_some_iff.mpr isHexDigit]
    exact Option.some_ne_none value
  exact ⟨fun point => known point (by decide), fun colon => known colon (by decide)⟩

theorem octetsOfGroups_quad (a b c d : UInt8) :
    octetsOfGroups [256 * a.toNat + b.toNat, 256 * c.toNat + d.toNat] = [a, b, c, d] := by
  have parts (high low : UInt8) : UInt8.ofNat ((256 * high.toNat + low.toNat) / 256) = high ∧
      UInt8.ofNat ((256 * high.toNat + low.toNat) % 256) = low := by
    have small := low.toNat_lt
    have quotient : (256 * high.toNat + low.toNat) / 256 = high.toNat := by omega
    have remainder : (256 * high.toNat + low.toNat) % 256 = low.toNat := by omega
    rw [quotient, remainder, UInt8.ofNat_toNat, UInt8.ofNat_toNat]
    exact ⟨rfl, rfl⟩
  rw [octetsOfGroups_cons, octetsOfGroups_cons, (parts a b).1, (parts a b).2, (parts c d).1,
    (parts c d).2]
  rfl

/-! ### Elements -/

section Elements

variable {quadAllowed : Bool} {elements : List (List Char)} {groups : List Nat}
  {octets : List UInt8}

theorem exists_areElements_of_readGroups? (read : readGroups? quadAllowed elements = some octets) :
    ∃ groups, AreElements quadAllowed elements groups ∧ octets = octetsOfGroups groups := by
  induction elements generalizing octets with
  | nil =>
    cases read
    exact ⟨[], .nil, rfl⟩
  | cons first rest ih =>
    cases rest with
    | nil =>
      simp only [readGroups?, Bool.and_eq_true, List.contains_eq_mem, decide_eq_true_eq] at read
      split_ifs at read with hasQuad
      · have isQuad := readQuad?_eq_some_iff.mp read
        obtain ⟨a, b, c, d, rfl⟩ := isQuad.exists_eq
        exact ⟨_, .quad hasQuad.1 isQuad, (octetsOfGroups_quad a b c d).symm⟩
      · obtain ⟨group, isGroup, rfl⟩ := readGroup?_eq_some_iff.mp read
        exact ⟨[group], .group isGroup .nil, rfl⟩
    | cons second others =>
      obtain ⟨firstOctets, readFirst, read⟩ := Option.bind_eq_some_iff.mp read
      obtain ⟨otherOctets, readOthers, given⟩ := Option.bind_eq_some_iff.mp read
      cases given
      obtain ⟨group, isGroup, rfl⟩ := readGroup?_eq_some_iff.mp readFirst
      obtain ⟨groups, areElements, rfl⟩ := ih readOthers
      exact ⟨group :: groups, .group isGroup areElements, rfl⟩

theorem AreElements.readGroups? (areElements : AreElements quadAllowed elements groups) :
    readGroups? quadAllowed elements = some (octetsOfGroups groups) := by
  induction areElements with
  | nil => rfl
  | quad allowed isQuad =>
    rw [Address.readGroups?, allowed, List.contains_eq_mem, decide_eq_true isQuad.point_mem.1,
      Bool.and_self, if_pos rfl, readQuad?_eq_some_iff.mpr isQuad, octetsOfGroups_quad]
  | @group text group rest groups isGroup areElements ih =>
    have read := readGroup?_eq_some_iff.mpr ⟨group, isGroup, rfl⟩
    cases rest with
    | nil =>
      cases areElements
      rw [Address.readGroups?, List.contains_eq_mem, decide_eq_false isGroup.not_mem.1,
        Bool.and_false, if_neg Bool.false_ne_true, read]
    | cons second others =>
      rw [Address.readGroups?, read, ih]
      · rfl
      · rintro ⟨⟩

theorem readGroups?_eq_some_iff : Address.readGroups? quadAllowed elements = some octets ↔
    ∃ groups, AreElements quadAllowed elements groups ∧ octets = octetsOfGroups groups := by
  constructor
  · exact exists_areElements_of_readGroups?
  · rintro ⟨groups, areElements, rfl⟩
    exact areElements.readGroups?

/-- An element is neither empty nor has it a colon. -/
theorem AreElements.ne_nil_and_not_mem (areElements : AreElements quadAllowed elements groups) :
    ∀ element ∈ elements, element ≠ [] ∧ ':' ∉ element := by
  induction areElements with
  | nil =>
    intro element member
    cases member
  | quad allowed isQuad =>
    intro element member
    rw [List.mem_singleton.mp member]
    exact ⟨List.ne_nil_of_mem isQuad.point_mem.1, isQuad.point_mem.2⟩
  | group isGroup areElements ih =>
    intro element member
    rcases List.mem_cons.mp member with rfl | there
    · exact ⟨isGroup.nonempty, isGroup.not_mem.2⟩
    · exact ih element there

end Elements

end InterfaceAddress.Address
