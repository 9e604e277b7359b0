import InterfaceAddress.Proofs.Address.Writing
import InterfaceAddress.Proofs.Session.Origin
import Mathlib

/-! # Descriptors in text

The text of a well-formed descriptor is read as a draft with its address and its
prefix length (`Draft.ofText_text`). With its flags and its scope the draft is
built to an equal descriptor (`Draft.exists_build_ofText`). Flags and scope are
no part of the text, so that descriptors of the same address have the same text
and others have not (`Descriptor.text_eq_iff`).
-/

namespace InterfaceAddress

/-! ### Numbers -/

namespace Binary64

/-- The text of a natural number below `2 ^ 53` is its numeral. A zero is written without its
sign. -/
theorem ofBinary64_of_toInt? {number : Binary64} {value : Nat}
    (isInteger : number.toInt? = some (value : Int)) (safe : value ≤ maxSafeInteger.toNat) :
    Numeral.ofBinary64 number = Nat.toDigits 10 value := by
  obtain ⟨negative, magnitude, rfl, exact⟩ := toInt?_eq_some_iff.mp isInteger
  have units := units_of_signedUnits exact
  rw [Int.natAbs_natCast] at units
  have unsigned : ¬ (negative = true ∧ magnitude.units ≠ 0) := by
    rintro ⟨rfl, positive⟩
    rw [signedUnits, if_pos rfl, ← Int.natCast_mul, ← units] at exact
    omega
  have whole := Magnitude.whole_of_units units
  have isSafe : magnitude.IsWhole ∧ magnitude.whole ≤ maxSafeInteger.toNat :=
    ⟨Magnitude.isWhole_of_units units, whole ▸ safe⟩
  rw [Numeral.ofBinary64, if_neg unsigned, Numeral.ofMagnitude, if_pos isSafe, whole]

end Binary64

/-! ### Taking a text apart -/

/-- The address in a part of a text; there is none in an empty part. -/
def AddressSource.ofPart (part : List Char) : AddressSource :=
  if part = [] then .missing else .text (String.ofList part)

namespace Draft

variable {text : String} {front behind : List Char}

theorem span_slash (slashless : '/' ∉ front) (rest : List Char) :
    (front ++ rest).span (· ≠ '/') =
      (front ++ rest.takeWhile (· ≠ '/'), rest.dropWhile (· ≠ '/')) := by
  have kept : ∀ char ∈ front, decide (char ≠ '/') = true := by
    intro char member
    exact decide_eq_true fun slash => slashless (slash ▸ member)
  rw [List.span_eq_takeWhile_dropWhile, List.takeWhile_append_of_pos kept,
    List.dropWhile_append_of_pos kept]

/-- What stands in front of the first slash is the address, what stands behind it the prefix
length. -/
theorem ofText_of_slash (trimmed : Text.trim text.toList = front ++ '/' :: behind)
    (slashless : '/' ∉ front) (state : DraftState) :
    ofText text state = ⟨.ofPart front, readPrefix behind, state⟩ := by
  have whole := span_slash slashless ('/' :: behind)
  rw [List.takeWhile_cons_of_neg (by decide), List.dropWhile_cons_of_neg (by decide),
    List.append_nil] at whole
  simp only [ofText, trimmed, whole]
  rfl

/-- Without a slash all of the text is the address. -/
theorem ofText_of_no_slash (trimmed : Text.trim text.toList = front) (slashless : '/' ∉ front)
    (state : DraftState) : ofText text state = ⟨.ofPart front, unknownPrefix, state⟩ := by
  have whole := span_slash slashless []
  rw [List.append_nil, List.takeWhile_nil, List.append_nil, List.dropWhile_nil] at whole
  simp only [ofText, trimmed, whole]
  rfl

end Draft

namespace Descriptor

section Text

variable {descriptor : Descriptor} {length : Nat}
  (isInteger : descriptor.prefixLength.toInt? = some (length : Int))
  (short : length ≤ descriptor.address.family.width)
include isInteger short

theorem toList_text :
    descriptor.text.toList = descriptor.address.write ++ '/' :: Nat.toDigits 10 length := by
  have narrow := descriptor.address.family.width_le
  have safe : length ≤ Binary64.maxSafeInteger.toNat :=
    Nat.le_trans (Nat.le_trans short narrow) (by decide)
  have numeral := Binary64.ofBinary64_of_toInt? isInteger safe
  simp only [text, Address.text, Binary64.text, numeral, String.toList_append,
    String.toList_ofList, List.append_assoc]
  rfl

/-- The text of a descriptor is a draft with its address and its prefix length. -/
theorem ofText_text (state : DraftState) :
    Draft.ofText descriptor.text state =
      ⟨.text descriptor.address.text, some (.ofNat length), state⟩ := by
  have whole := toList_text isInteger short
  have slashless : '/' ∉ descriptor.address.write := fun slash =>
    (descriptor.address.isGrammarChar_write '/' slash).ne (by decide) rfl
  have noBlanks : ∀ char ∈ descriptor.text.toList, Text.isBlank char = false := by
    intro char member
    rw [whole, List.mem_append, List.mem_cons] at member
    rcases member with inAddress | rfl | inPrefix
    · exact (descriptor.address.isGrammarChar_write char inAddress).isBlank
    · decide
    · obtain ⟨digit, isHexDigit⟩ :=
        Text.exists_isHexDigit_of_isDigit (Text.isDigit_of_mem_toDigits_ten inPrefix)
      exact Text.isBlank_of_isHexDigit isHexDigit
  have trimmed : Text.trim descriptor.text.toList =
      descriptor.address.write ++ '/' :: Nat.toDigits 10 length :=
    (Text.trim_eq_iff.mpr (Text.isTrimmed_self noBlanks)).trans whole
  rw [Draft.ofText_of_slash trimmed slashless, AddressSource.ofPart,
    if_neg descriptor.address.write_ne_nil, Draft.readPrefix, Text.ofDecimalDigits?_toDigits,
    Option.map_some, Option.getD_some, Address.text]

end Text

variable {descriptor other : Descriptor}

/-- Descriptors have the same text if they have the same address and prefix length. -/
theorem text_eq_iff (wellFormed : descriptor.WellFormed) (otherWellFormed : other.WellFormed) :
    descriptor.text = other.text ↔ descriptor.isSameAddressAs other = true := by
  obtain ⟨length, isInteger, short⟩ := wellFormed.prefixFits
  obtain ⟨otherLength, otherIsInteger, otherShort⟩ := otherWellFormed.prefixFits
  have narrow := descriptor.address.family.width_le
  have otherNarrow := other.address.family.width_le
  rw [isSameAddressAs, Bool.and_eq_true, decide_eq_true_eq,
    Binary64.same_iff_of_toInt? isInteger otherIsInteger, Int.natCast_inj]
  constructor
  · intro same
    have drafts := congrArg (Draft.ofText · .empty) same
    simp only [ofText_text isInteger short, ofText_text otherIsInteger otherShort, Draft.mk.injEq,
      AddressSource.text.injEq, Option.some.injEq, and_true] at drafts
    have lengths := congrArg Binary64.toInt? drafts.2
    rw [Binary64.toInt?_ofNat (by omega), Binary64.toInt?_ofNat (by omega), Option.some.injEq,
      Int.natCast_inj] at lengths
    exact ⟨Address.text_injective drafts.1, lengths⟩
  · rintro ⟨sameAddress, rfl⟩
    rw [← String.toList_inj, toList_text isInteger short, toList_text otherIsInteger otherShort,
      sameAddress]

end Descriptor

/-! ### Reading a text back -/

namespace Descriptor

variable {descriptor : Descriptor} {collapsing : Bool}

/-- The flags and the scope of a descriptor, which its text leaves out. -/
def state (descriptor : Descriptor) : DraftState :=
  ⟨some descriptor.storedFlags, some descriptor.scope, none, none⟩

/-- The text of a well-formed descriptor with its flags and its scope is built to an equal
descriptor, unless collapsing takes away its address. -/
theorem exists_build_ofText (wellFormed : descriptor.WellFormed)
    (kept : Address.read? descriptor.address.text collapsing = some descriptor.address) :
    ∃ built, (Draft.ofText descriptor.text descriptor.state).build collapsing = .ok built ∧
      built.equals descriptor = true := by
  obtain ⟨length, isInteger, short⟩ := wellFormed.prefixFits
  have narrow := descriptor.address.family.width_le
  have read : (Binary64.ofNat length).toInt? = some (length : Int) :=
    Binary64.toInt?_ofNat (by omega)
  have samePrefix := (Binary64.same_iff_of_toInt? read isInteger).mpr rfl
  have drafted := ofText_text isInteger short descriptor.state
  generalize Draft.ofText descriptor.text descriptor.state = draft at drafted ⊢
  have resolved : draft.address.resolve collapsing = .ok descriptor.address := by
    rw [drafted, AddressSource.resolve, kept]
  have given : draft.prefixLength = some (.ofNat length) := by
    rw [drafted]
  have consistent : draft.lifetimes.Consistent := by
    rw [drafted]
    exact ⟨_, _, .unknown, .unknown, Int.le_refl _, Int.le_refl _, Iff.rfl⟩
  have built := Draft.build_eq_ok_iff.mpr ⟨_, _, resolved, given, ⟨length, read, short⟩,
    wellFormed.unicast, consistent, rfl⟩
  refine ⟨_, built, ?_⟩
  simp only [drafted, Draft.toDescriptor, state, equals, isSameAddressAs, decide_true, samePrefix,
    Option.getD_some, Binary64.sameOrNan_self, Bool.and_self]

theorem exists_tryParse_text (wellFormed : descriptor.WellFormed)
    (kept : Address.read? descriptor.address.text collapsing = some descriptor.address)
    (session : Session) :
    ∃ parsed, (tryParse descriptor.text descriptor.state (some collapsing) session).result =
        .ok (.ok parsed) ∧ parsed.equals descriptor = true := by
  obtain ⟨built, gives, equal⟩ := exists_build_ofText wellFormed kept
  exact ⟨built, congrArg Outcome.result (Draft.tryCreate_run_of_ok rfl gives), equal⟩

/-- **A descriptor is read back from its text.** With its flags and its scope the text of a
descriptor that was obtained in any way gives an equal descriptor, and also does so where embedded
addresses are collapsed unless its address embeds another. The text tells the address and the
prefix length, and nothing else. -/
theorem tryParse_text {descriptor other : Descriptor} (obtained : descriptor.Obtained)
    (otherObtained : other.Obtained) (session : Session) :
    (∃ parsed, (tryParse descriptor.text descriptor.state (some false) session).result =
        .ok (.ok parsed) ∧ parsed.equals descriptor = true) ∧
    ((∀ embedded, ¬ descriptor.address.Embeds embedded) →
      ∃ parsed, (tryParse descriptor.text descriptor.state (some true) session).result =
        .ok (.ok parsed) ∧ parsed.equals descriptor = true) ∧
    (descriptor.text = other.text ↔ descriptor.isSameAddressAs other = true) := by
  refine ⟨?_, ?_, text_eq_iff obtained.wellFormed otherObtained.wellFormed⟩
  · exact exists_tryParse_text obtained.wellFormed (descriptor.address.read?_text_eq false) session
  · intro embedsNone
    have kept := descriptor.address.read?_text_eq true
    rw [if_pos rfl, Address.collapse_of_embeds_none embedsNone] at kept
    exact exists_tryParse_text obtained.wellFormed kept session

/-- A link-local address with flags and a scope. -/
def linkLocal (flags scope : Binary64) : Descriptor where
  address := ⟨[0xfe, 0x80, 0, 0, 0, 0, 0, 0, 0, 0, 0, 0, 0, 0, 0, 1], .inr rfl⟩
  prefixLength := 64
  storedFlags := flags
  scope := scope
  lifetimes := ⟨.unknown, .unknown⟩

theorem tryParse_text_linkLocal :
    let descriptor := linkLocal .nan (-0)
    let other := linkLocal 128 253
    descriptor.Obtained ∧ other.Obtained ∧
    (∃ parsed, (tryParse descriptor.text descriptor.state (some false) .initial).result =
        .ok (.ok parsed) ∧ parsed.equals descriptor = true) ∧
    (∃ parsed, (tryParse descriptor.text descriptor.state (some true) .initial).result =
        .ok (.ok parsed) ∧ parsed.equals descriptor = true) ∧
    (descriptor.text = other.text ↔ descriptor.isSameAddressAs other = true) := by
  intro descriptor other
  have created : (Draft.tryCreate ⟨.text "fe80::1%eth0", some 64, descriptor.state⟩ (some true)
      .initial).result = .ok (.ok descriptor) := by
    decide +kernel
  have otherCreated : (Draft.tryCreate ⟨.text "FE80::0:1", some 64, ⟨some 128, none, none, none⟩⟩
      (some true) .initial).result = .ok (.ok other) := by
    decide +kernel
  have embedsNone : ∀ embedded, ¬ descriptor.address.Embeds embedded := by
    rintro embedded ⟨⟩
  have back := tryParse_text (.tryCreate created) (.tryCreate otherCreated) .initial
  exact ⟨.tryCreate created, .tryCreate otherCreated, back.1, back.2.1 embedsNone, back.2.2⟩

end Descriptor

end InterfaceAddress
