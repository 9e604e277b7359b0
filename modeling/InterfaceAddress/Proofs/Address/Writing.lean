import InterfaceAddress.Address.Writer
import InterfaceAddress.Proofs.Address.Reading
import Mathlib

/-! # Reading what was written

The text of an address belongs to the grammar: its octets are the octets that
the text denotes (`denotes_write`). For sixteen octets this rests on the run of
zeros that is left out being a run of zeros (`eq_append_longestZeroRun`), not on
its being the longest. As a text denotes at most one address, different
addresses have different texts (`read?_text`).
-/

namespace InterfaceAddress.Address

variable {quadAllowed : Bool} {text : List Char} {octets : List UInt8} {groups : List Nat}

/-! ### Characters -/

/-- The characters of the grammar, without brackets and zones. -/
def IsGrammarChar (char : Char) : Prop :=
  char = ':' ∨ char = '.' ∨ ∃ value, Text.IsHexDigit char value

theorem IsGrammarChar.isBlank {char : Char} (isGrammarChar : IsGrammarChar char) :
    Text.isBlank char = false := by
  rcases isGrammarChar with rfl | rfl | ⟨value, isHexDigit⟩
  · decide
  · decide
  · exact Text.isBlank_of_isHexDigit isHexDigit

/-- A character that is no hexadecimal digit, no colon and no point is not in the grammar. -/
theorem IsGrammarChar.ne {char other : Char} (isGrammarChar : IsGrammarChar char)
    (foreign : other ≠ ':' ∧ other ≠ '.' ∧ Text.hexDigit? other = none) : char ≠ other := by
  rintro rfl
  rcases isGrammarChar with colon | point | ⟨value, isHexDigit⟩
  · exact foreign.1 colon
  · exact foreign.2.1 point
  · rw [Text.hexDigit?_eq_some_iff.mpr isHexDigit] at foreign
    cases foreign.2.2

theorem IsQuad.isGrammarChar (isQuad : IsQuad text octets) : ∀ char ∈ text, IsGrammarChar char := by
  intro char member
  obtain ⟨parts, rfl, -, areOctets⟩ := isQuad
  rcases eq_or_mem_of_mem_intercalate member with point | ⟨part, listed, inside⟩
  · exact .inr (.inl point)
  · obtain ⟨octet, isOctet⟩ := exists_of_mem_of_forall₂ areOctets listed
    exact .inr (.inr (Text.exists_isHexDigit_of_isDigit (isOctet.isDigit char inside)))

theorem IsGroup.isGrammarChar {group : Nat} (isGroup : IsGroup text group) :
    ∀ char ∈ text, IsGrammarChar char := by
  intro char member
  obtain ⟨digits, areDigits, -⟩ := isGroup.spelled
  exact .inr (.inr (exists_of_mem_of_forall₂ areDigits member))

theorem AreElements.isGrammarChar {elements : List (List Char)}
    (areElements : AreElements quadAllowed elements groups) :
    ∀ element ∈ elements, ∀ char ∈ element, IsGrammarChar char := by
  induction areElements with
  | nil =>
    intro element member
    cases member
  | quad allowed isQuad =>
    intro element member
    rw [List.mem_singleton.mp member]
    exact isQuad.isGrammarChar
  | group isGroup areElements ih =>
    intro element member
    rcases List.mem_cons.mp member with rfl | there
    · exact isGroup.isGrammarChar
    · exact ih element there

theorem IsSequence.isGrammarChar (isSequence : IsSequence quadAllowed text groups) :
    ∀ char ∈ text, IsGrammarChar char := by
  intro char member
  obtain ⟨elements, rfl, areElements⟩ := isSequence
  rcases eq_or_mem_of_mem_intercalate member with colon | ⟨element, listed, inside⟩
  · exact .inl colon
  · exact areElements.isGrammarChar element listed char inside

theorem AreGroups.isGrammarChar (areGroups : AreGroups text groups) :
    ∀ char ∈ text, IsGrammarChar char := by
  cases areGroups with
  | full isSequence eight => exact isSequence.isGrammarChar
  | elided before after atMostSeven =>
    intro char member
    rw [List.mem_append, List.mem_cons, List.mem_cons] at member
    rcases member with left | colon | colon | right
    · exact before.isGrammarChar char left
    · exact .inl colon
    · exact .inl colon
    · exact after.isGrammarChar char right

/-! ### Texts of the grammar by themselves -/

/-- An element stands for at most two groups. -/
theorem AreElements.length_le {elements : List (List Char)}
    (areElements : AreElements quadAllowed elements groups) :
    groups.length ≤ elements.length + 1 := by
  induction areElements with
  | nil => exact Nat.zero_le _
  | quad allowed isQuad => exact Nat.le_refl _
  | group isGroup areElements ih => exact Nat.succ_le_succ ih

theorem AreGroups.colon_mem (areGroups : AreGroups text groups) : ':' ∈ text := by
  cases areGroups with
  | full isSequence eight =>
    obtain ⟨elements, rfl, areElements⟩ := isSequence
    have several := areElements.length_le
    rw [eight] at several
    match elements, several with
    | [], several => exact absurd several (show ¬ 8 ≤ 1 by decide)
    | [_], several => exact absurd several (show ¬ 8 ≤ 2 by decide)
    | first :: second :: rest, _ => simp [List.intercalate_cons_cons]
  | elided before after atMostSeven => simp

theorem IsQuad.denotes (isQuad : IsQuad text octets) : Denotes text octets := by
  have noBlanks : ∀ char ∈ text, Text.isBlank char = false := fun char member =>
    (isQuad.isGrammarChar char member).isBlank
  exact .quad (Text.isTrimmed_self noBlanks) isQuad.point_mem.2 isQuad

/-- Groups without blanks, brackets and a zone around them denote their octets. -/
theorem AreGroups.denotes (areGroups : AreGroups text groups) :
    Denotes text (octetsOfGroups groups) := by
  have known := areGroups.isGrammarChar
  have notEnclosed : ∀ inside, text ≠ '[' :: (inside ++ [']']) := by
    rintro inside rfl
    exact (known '[' List.mem_cons_self).ne (by decide) rfl
  have noZone : '%' ∉ text := fun percent => (known '%' percent).ne (by decide) rfl
  exact .groups (Text.isTrimmed_self fun char member => (known char member).isBlank)
    areGroups.colon_mem (.bare notEnclosed) ⟨noZone, .inl rfl⟩ areGroups

/-! ### Groups of octets -/

theorem octetsOfGroups_groups (count : Nat) (even : octets.length = 2 * count) :
    octetsOfGroups (Address.groups octets) = octets := by
  induction count generalizing octets with
  | zero =>
    rw [List.length_eq_zero_iff.mp even]
    rfl
  | succ count ih =>
    match octets, even with
    | high :: low :: rest, even =>
      have restEven : rest.length = 2 * count := by
        rw [List.length_cons, List.length_cons] at even
        omega
      have small := low.toNat_lt
      have quotient : (256 * high.toNat + low.toNat) / 256 = high.toNat := by omega
      have remainder : (256 * high.toNat + low.toNat) % 256 = low.toNat := by omega
      rw [Address.groups, octetsOfGroups_cons, ih restEven, quotient, remainder, UInt8.ofNat_toNat,
        UInt8.ofNat_toNat]

theorem lt_of_mem_groups {group : Nat} (member : group ∈ Address.groups octets) :
    group < 65536 := by
  induction octets using Address.groups.induct with
  | case1 high low rest ih =>
    rw [Address.groups, List.mem_cons] at member
    rcases member with rfl | there
    · have highBound := high.toNat_lt
      have lowBound := low.toNat_lt
      omega
    · exact ih there
  | case2 octets short =>
    rw [Address.groups] at member
    · cases member
    · exact short

/-! ### Writing in groups -/

theorem isQuad_writeQuad (four : octets.length = 4) : IsQuad (writeQuad octets) octets := by
  refine ⟨_, rfl, by rw [List.length_map, four], ?_⟩
  rw [List.forall₂_map_left_iff, List.forall₂_same]
  exact fun _ _ => rfl

theorem isGroup_toDigits {group : Nat} (small : group < 65536) :
    IsGroup (Nat.toDigits 16 group) group where
  nonempty := Nat.toDigits_ne_nil
  short := (Nat.length_toDigits_le_iff (by decide) (by decide)).mpr small
  spelled := Text.exists_hexDigits_toDigits group

theorem areElements_map_toDigits (small : ∀ group ∈ groups, group < 65536) :
    AreElements quadAllowed (groups.map (Nat.toDigits 16)) groups := by
  induction groups with
  | nil => exact .nil
  | cons group rest ih =>
    exact .group (isGroup_toDigits (small group List.mem_cons_self))
      (ih fun other member => small other (List.mem_cons_of_mem group member))

theorem isSequence_writeGroups (small : ∀ group ∈ groups, group < 65536) :
    IsSequence quadAllowed (writeGroups groups) groups :=
  ⟨_, rfl, areElements_map_toDigits small⟩

/-! ### The run of zeros that is left out -/

theorem eq_append_leadingZeros (groups : List Nat) :
    groups = List.replicate (leadingZeros groups) 0 ++ groups.drop (leadingZeros groups) := by
  have zeros : groups.takeWhile (· = 0) = List.replicate (leadingZeros groups) 0 := by
    apply List.eq_replicate_length.mpr
    intro group member
    simpa using List.mem_takeWhile_imp member
  rw [← zeros]
  exact (List.prefix_iff_eq_append.mp (List.takeWhile_prefix _)).symm

/-- The groups of the longest run are zeros. -/
theorem eq_append_longestZeroRun (groups : List Nat) :
    groups = groups.take (longestZeroRun groups).1 ++
      List.replicate (longestZeroRun groups).2 0 ++
        groups.drop ((longestZeroRun groups).1 + (longestZeroRun groups).2) := by
  induction groups with
  | nil => rfl
  | cons group rest ih =>
    simp only [longestZeroRun]
    split_ifs
    · rw [List.take_zero, List.nil_append, Nat.zero_add]
      exact eq_append_leadingZeros (group :: rest)
    · rw [Nat.add_right_comm, List.take_succ_cons, List.drop_succ_cons, List.cons_append,
        List.cons_append, ← ih]

theorem areGroups_writeElided (eight : groups.length = 8)
    (small : ∀ group ∈ groups, group < 65536) : AreGroups (writeElided groups) groups := by
  have whole := eq_append_longestZeroRun groups
  simp only [writeElided]
  generalize (longestZeroRun groups).1 = start at whole ⊢
  generalize (longestZeroRun groups).2 = length at whole ⊢
  split_ifs with short
  · exact .full (isSequence_writeGroups small) eight
  · have before : IsSequence false (writeGroups (groups.take start)) (groups.take start) :=
      isSequence_writeGroups fun group member => small group (List.mem_of_mem_take member)
    have after : IsSequence true (writeGroups (groups.drop (start + length)))
        (groups.drop (start + length)) :=
      isSequence_writeGroups fun group member => small group (List.mem_of_mem_drop member)
    have total := congrArg List.length whole
    rw [List.length_append, List.length_append, List.length_replicate, eight] at total
    have elided := AreGroups.elided before after (by omega)
    have zeros : 8 - ((groups.take start).length + (groups.drop (start + length)).length) =
        length := by
      omega
    rw [zeros, ← whole] at elided
    simpa using elided

/-! ### Embedded addresses -/

/-- An address of sixteen octets embeds one of four behind the mapped header. -/
def Embeds (address embedded : Address) : Prop :=
  address.octets = mappedHeader ++ embedded.octets

/-- What an address becomes where embedded addresses are collapsed. -/
inductive CollapsesTo (address : Address) : Address → Prop where
  | embedded {embedded : Address} (embeds : address.Embeds embedded) : CollapsesTo address embedded
  | itself (embedsNone : ∀ embedded, ¬ address.Embeds embedded) : CollapsesTo address address

section Embedding

variable {address embedded : Address}

theorem Embeds.length_octets (embeds : address.Embeds embedded) :
    address.octets.length = 16 ∧ embedded.octets.length = 4 := by
  have total : address.octets.length = 12 + embedded.octets.length := by
    rw [embeds, List.length_append]
    rfl
  have known := address.length_octets
  have embeddedKnown := embedded.length_octets
  omega

theorem Embeds.isMapped (embeds : address.Embeds embedded) : address.isMapped = true := by
  have header : address.octets.take 12 = mappedHeader := by
    rw [embeds]
    rfl
  rw [Address.isMapped, Bool.and_eq_true, decide_eq_true_eq, decide_eq_true_eq]
  exact ⟨embeds.length_octets.1, header⟩

theorem isMapped_iff : address.isMapped = true ↔ ∃ embedded, address.Embeds embedded := by
  constructor
  · intro mapped
    rw [isMapped, Bool.and_eq_true, decide_eq_true_eq, decide_eq_true_eq] at mapped
    have four : (address.octets.drop 12).length = 4 := by
      rw [List.length_drop, mapped.1]
    refine ⟨⟨address.octets.drop 12, .inl four⟩, ?_⟩
    rw [Embeds, ← mapped.2, List.take_append_drop]
  · rintro ⟨embedded, embeds⟩
    exact embeds.isMapped

theorem Embeds.collapse_eq (embeds : address.Embeds embedded) : address.collapse = embedded := by
  rw [collapse, dif_pos embeds.isMapped]
  cases embedded
  rw [mk.injEq, embeds]
  rfl

theorem collapse_of_embeds_none (embedsNone : ∀ embedded, ¬ address.Embeds embedded) :
    address.collapse = address := by
  rw [collapse, dif_neg]
  intro mapped
  obtain ⟨embedded, embeds⟩ := isMapped_iff.mp mapped
  exact embedsNone embedded embeds

theorem collapsesTo_collapse (address : Address) : address.CollapsesTo address.collapse := by
  by_cases embeds : ∃ embedded, address.Embeds embedded
  · obtain ⟨embedded, embeds⟩ := embeds
    rw [embeds.collapse_eq]
    exact .embedded embeds
  · rw [collapse_of_embeds_none (not_exists.mp embeds)]
    exact .itself (not_exists.mp embeds)

end Embedding

/-! ### Writing an address -/

theorem areGroups_mapped {a b c d : UInt8} (isQuad : IsQuad text [a, b, c, d]) :
    AreGroups ("::ffff:".toList ++ text)
      [0, 0, 0, 0, 0, 0xffff, 256 * a.toNat + b.toNat, 256 * c.toNat + d.toNat] := by
  have numeral : "ffff".toList = Nat.toDigits 16 0xffff := by decide
  have marker : IsGroup "ffff".toList 0xffff := by
    rw [numeral]
    exact isGroup_toDigits (by decide)
  have before : IsSequence false [] [] := ⟨[], rfl, .nil⟩
  have after : IsSequence true ("ffff:".toList ++ text)
      [0xffff, 256 * a.toNat + b.toNat, 256 * c.toNat + d.toNat] :=
    ⟨["ffff".toList, text], by simp, .group marker (.quad rfl isQuad)⟩
  exact .elided before after (show 0 + 3 ≤ 7 by decide)

theorem octetsOfGroups_mapped (a b c d : UInt8) :
    octetsOfGroups
        [0, 0, 0, 0, 0, 0xffff, 256 * a.toNat + b.toNat, 256 * c.toNat + d.toNat] =
      mappedHeader ++ [a, b, c, d] := by
  have header : octetsOfGroups [0, 0, 0, 0, 0, 0xffff] = mappedHeader := by decide
  rw [← octetsOfGroups_quad a b c d, ← header, ← octetsOfGroups_append]
  rfl

section Write

variable {address embedded : Address}

theorem write_of_four (four : address.octets.length = 4) :
    address.write = writeQuad address.octets := by
  have family : address.family = .v4 := if_pos four
  rw [write, family]

theorem write_of_embeds (embeds : address.Embeds embedded) :
    address.write = "::ffff:".toList ++ writeQuad embedded.octets := by
  have family : address.family = .v6 := if_neg (by rw [embeds.length_octets.1]; decide)
  have behind : address.octets.drop 12 = embedded.octets := by
    rw [embeds]
    rfl
  simp only [write, family]
  rw [if_pos embeds.isMapped, behind]

theorem write_of_sixteen (sixteen : address.octets.length = 16)
    (embedsNone : ∀ embedded, ¬ address.Embeds embedded) :
    address.write = writeElided (Address.groups address.octets) := by
  have family : address.family = .v6 := if_neg (by rw [sixteen]; decide)
  simp only [write, family]
  rw [if_neg]
  intro mapped
  obtain ⟨embedded, embeds⟩ := isMapped_iff.mp mapped
  exact embedsNone embedded embeds

theorem length_groups (sixteen : octets.length = 16) : (Address.groups octets).length = 8 := by
  have total := congrArg List.length (octetsOfGroups_groups 8 sixteen)
  rw [length_octetsOfGroups, sixteen] at total
  omega

end Write

/-- The text of an address belongs to the grammar. -/
theorem isQuad_or_areGroups_write (address : Address) :
    IsQuad address.write address.octets ∨
      ∃ groups, AreGroups address.write groups ∧ octetsOfGroups groups = address.octets := by
  rcases address.length_octets with four | sixteen
  · rw [write_of_four four]
    exact .inl (isQuad_writeQuad four)
  right
  by_cases embeds : ∃ embedded, address.Embeds embedded
  · obtain ⟨embedded, embeds⟩ := embeds
    have isQuad := isQuad_writeQuad embeds.length_octets.2
    obtain ⟨a, b, c, d, same⟩ := isQuad.exists_eq
    rw [write_of_embeds embeds, embeds, same]
    exact ⟨_, areGroups_mapped (same ▸ isQuad), octetsOfGroups_mapped a b c d⟩
  · rw [write_of_sixteen sixteen (not_exists.mp embeds)]
    exact ⟨_, areGroups_writeElided (length_groups sixteen) fun _ => lt_of_mem_groups,
      octetsOfGroups_groups 8 sixteen⟩

theorem isGrammarChar_write (address : Address) : ∀ char ∈ address.write, IsGrammarChar char := by
  rcases address.isQuad_or_areGroups_write with isQuad | ⟨groups, areGroups, -⟩
  · exact isQuad.isGrammarChar
  · exact areGroups.isGrammarChar

theorem write_ne_nil (address : Address) : address.write ≠ [] := by
  rcases address.isQuad_or_areGroups_write with isQuad | ⟨groups, areGroups, -⟩
  · exact List.ne_nil_of_mem isQuad.point_mem.1
  · exact List.ne_nil_of_mem areGroups.colon_mem

/-- The text of an address denotes its octets. -/
theorem denotes_write (address : Address) : Denotes address.write address.octets := by
  rcases address.isQuad_or_areGroups_write with isQuad | ⟨groups, areGroups, same⟩
  · exact isQuad.denotes
  · rw [← same]
    exact areGroups.denotes

theorem read?_text_eq (address : Address) (collapsing : Bool) :
    read? address.text collapsing = some (if collapsing then address.collapse else address) := by
  have denotes : Denotes address.text.toList address.octets := by
    rw [Address.text, String.toList_ofList]
    exact denotes_write address
  exact read?_eq_some_iff.mpr
    ⟨address.octets, denotes, ofOctets?_eq_some_iff.mpr ⟨address, rfl, rfl⟩⟩

theorem text_injective : Function.Injective Address.text := by
  intro address other same
  have read := address.read?_text_eq false
  rw [same, other.read?_text_eq false] at read
  exact (Option.some.inj read).symm

theorem ofOctets?_collapsing (octets : List UInt8) :
    ofOctets? octets true = (ofOctets? octets false).map collapse := by
  by_cases known : octets.length = 4 ∨ octets.length = 16
  · rw [ofOctets?, ofOctets?, dif_pos known, dif_pos known]
    rfl
  · rw [ofOctets?, ofOctets?, dif_neg known, dif_neg known]
    rfl

/-- Collapsing replaces an address that is read and has no part in reading it. -/
theorem read?_collapsing (given : String) :
    read? given true = (read? given false).map collapse := by
  simp only [read?, readTrimmed?, ofOctets?_collapsing, Option.bind_eq_bind]
  split_ifs <;> rw [Option.map_bind] <;> rfl

/-- **Reading undoes writing.** Every address is read back from its text. Where embedded addresses
are collapsed, the text gives the embedded address if there is one and the address itself
otherwise. So no two addresses of either family have one text, and a text that is read without
collapsing is also read with it, as what its address becomes. -/
theorem read?_text :
    (∀ address : Address, read? address.text false = some address) ∧
    (∀ address : Address, ∃ other, address.CollapsesTo other ∧
      read? address.text true = some other) ∧
    Function.Injective Address.text ∧
    ∀ given address, read? given false = some address →
      ∃ other, address.CollapsesTo other ∧ read? given true = some other := by
  refine ⟨fun address => address.read?_text_eq false, ?_, text_injective, ?_⟩
  · intro address
    exact ⟨address.collapse, address.collapsesTo_collapse, address.read?_text_eq true⟩
  · intro given address read
    refine ⟨address.collapse, address.collapsesTo_collapse, ?_⟩
    rw [read?_collapsing, read]
    rfl

/-- The address `::ffff:192.0.2.1`. -/
def embedding : Address := ⟨mappedHeader ++ [192, 0, 2, 1], .inr rfl⟩

theorem read?_text_embedding :
    read? " [::FFFF:c000:0201%eth0]" false = some embedding ∧
    ∃ other, embedding.CollapsesTo other ∧
      read? " [::FFFF:c000:0201%eth0]" true = some other := by
  have read : read? " [::FFFF:c000:0201%eth0]" false = some embedding := by
    decide +kernel
  exact ⟨read, read?_text.2.2.2 _ _ read⟩

example : (⟨[0x20, 1, 0xd, 0xb8, 0, 0, 0, 0, 0, 1, 0, 0, 0, 0, 0, 1], .inr rfl⟩ : Address).text =
    "2001:db8::1:0:0:1" := by
  decide +kernel

end InterfaceAddress.Address
