import InterfaceAddress.Proofs.Descriptor.Notation
import InterfaceAddress.Proofs.Descriptor.Rules
import Mathlib

/-! # Descriptors from text

A text is taken apart at its first slash (`IsSplit`). What stands in front of it
is the address; decimal digits behind it, of any length, are the number nearest
to what they spell, and anything else is a prefix length that no address allows.
So a text is accepted exactly if it is an address, a slash and digits that spell
a prefix length of the address, and an address that cannot be read is reported
before a prefix length that cannot (`Descriptor.tryParse_isParsed`).
-/

namespace InterfaceAddress

open Wire

/-! ### The parts of a text -/

/-- The parts of a text in front of its first slash and behind it. The blanks around the text do not
count. -/
inductive IsSplit (text : List Char) : List Char → Option (List Char) → Prop where
  | whole {front : List Char} (isTrimmed : Text.IsTrimmed text front) (slashless : '/' ∉ front) :
      IsSplit text front none
  | slash {front behind : List Char} (isTrimmed : Text.IsTrimmed text (front ++ '/' :: behind))
      (slashless : '/' ∉ front) : IsSplit text front (some behind)

/-- The number of the part behind a slash: that nearest to what its digits spell, or `-1` if it is
anything else than digits. -/
inductive IsPrefixNumber (behind : Option (List Char)) : Binary64 → Prop where
  | digits {digits : List Char} {value : Nat} {number : Binary64} (given : behind = some digits)
      (isDecimal : Text.IsDecimal digits value) (isNearest : number.IsNearest value) :
      IsPrefixNumber behind number
  | other (noDigits : ∀ digits value, behind = some digits → ¬ Text.IsDecimal digits value) :
      IsPrefixNumber behind (-1)

/-- The part behind a slash spells a prefix length of an address. -/
def Address.HasLength (address : Address) (behind : Option (List Char)) : Prop :=
  ∃ digits value, behind = some digits ∧ Text.IsDecimal digits value ∧
    value ≤ if address.octets.length = 4 then 32 else 128

variable {text front : List Char} {behind : Option (List Char)}

theorem exists_isSplit (text : List Char) : ∃ front behind, IsSplit text front behind := by
  have isTrimmed := Text.isTrimmed_trim text
  have whole := List.takeWhile_append_dropWhile (p := (· ≠ '/')) (l := Text.trim text)
  have slashless : '/' ∉ (Text.trim text).takeWhile (· ≠ '/') := by
    intro slash
    simpa using List.mem_takeWhile_imp slash
  cases rest : (Text.trim text).dropWhile (· ≠ '/') with
  | nil =>
    rw [rest, List.append_nil] at whole
    rw [whole] at slashless
    exact ⟨_, none, .whole isTrimmed slashless⟩
  | cons char behind =>
    have stopped := List.head?_dropWhile_not (· ≠ '/') (Text.trim text)
    rw [rest] at stopped
    obtain rfl : char = '/' := by simpa using stopped
    rw [← whole, rest] at isTrimmed
    exact ⟨_, some behind, .slash isTrimmed slashless⟩

theorem ofText_of_isSplit {text : String} (split : IsSplit text.toList front behind)
    (state : DraftState) : Draft.ofText text state =
      ⟨.ofPart front, Draft.readPrefix (behind.getD []), state⟩ := by
  cases split with
  | whole isTrimmed slashless =>
    exact Draft.ofText_of_no_slash (Text.trim_eq_iff.mpr isTrimmed) slashless state
  | slash isTrimmed slashless =>
    exact Draft.ofText_of_slash (Text.trim_eq_iff.mpr isTrimmed) slashless state

/-! ### Prefix lengths -/

theorem Draft.toInt?_unknownPrefix : unknownPrefix.toInt? = some (-1) :=
  Binary64.toInt?_neg (Binary64.toInt?_ofNat (by decide : 1 < 2 ^ 53))

theorem Draft.readPrefix_of_isDecimal {digits : List Char} {value : Nat}
    (isDecimal : Text.IsDecimal digits value) : readPrefix digits = .ofNat value := by
  rw [readPrefix, Text.ofDecimalDigits?_eq_some_iff.mpr isDecimal, Option.map_some,
    Option.getD_some]

theorem Draft.readPrefix_of_not_isDecimal {digits : List Char}
    (noDigits : ∀ value, ¬ Text.IsDecimal digits value) : readPrefix digits = unknownPrefix := by
  cases read : Text.ofDecimalDigits? digits with
  | none => rw [readPrefix, read, Option.map_none, Option.getD_none]
  | some value => exact absurd (Text.ofDecimalDigits?_eq_some_iff.mp read) (noDigits value)

/-- No rounding makes a prefix length of a number that is none. -/
theorem Address.allowsPrefix_ofNat_iff {address : Address} {value : Nat} :
    address.AllowsPrefix (.ofNat value) ↔
      value ≤ if address.octets.length = 4 then 32 else 128 := by
  constructor
  · rintro ⟨length, isInteger, nonnegative, short⟩
    lift length to Nat using nonnegative
    have narrow : (length : Int) ≤ 128 := by
      split_ifs at short <;> omega
    rw [Binary64.eq_of_toInt?_ofNat isInteger (by omega)]
    split_ifs at short ⊢ <;> omega
  · intro short
    have small : value < 2 ^ 53 := by
      split_ifs at short <;> omega
    refine ⟨value, Binary64.toInt?_ofNat small, Int.natCast_nonneg value, ?_⟩
    split_ifs at short ⊢ <;> omega

theorem Address.not_allowsPrefix_unknownPrefix (address : Address) :
    ¬ address.AllowsPrefix Draft.unknownPrefix := by
  rintro ⟨length, isInteger, nonnegative, -⟩
  have same := Option.some.inj (Draft.toInt?_unknownPrefix.symm.trans isInteger)
  omega

/-- The part behind the slash is read as digits, or as an unknown prefix length. -/
theorem readPrefix_cases (behind : Option (List Char)) :
    (∃ digits value, behind = some digits ∧ Text.IsDecimal digits value ∧
      Draft.readPrefix (behind.getD []) = .ofNat value) ∨
    (∀ digits value, behind = some digits → ¬ Text.IsDecimal digits value) ∧
      Draft.readPrefix (behind.getD []) = Draft.unknownPrefix := by
  cases behind with
  | none =>
    have noDigits : ∀ value, ¬ Text.IsDecimal [] value := fun value isDecimal =>
      isDecimal.nonempty rfl
    exact .inr ⟨nofun, Draft.readPrefix_of_not_isDecimal noDigits⟩
  | some digits =>
    by_cases decimal : ∃ value, Text.IsDecimal digits value
    · obtain ⟨value, isDecimal⟩ := decimal
      exact .inl ⟨digits, value, rfl, isDecimal, Draft.readPrefix_of_isDecimal isDecimal⟩
    · have noDigits := not_exists.mp decimal
      refine .inr ⟨?_, Draft.readPrefix_of_not_isDecimal noDigits⟩
      rintro _ value ⟨⟩
      exact noDigits value

theorem isPrefixNumber_readPrefix (behind : Option (List Char)) :
    IsPrefixNumber behind (Draft.readPrefix (behind.getD [])) := by
  rcases readPrefix_cases behind with ⟨digits, value, given, isDecimal, read⟩ | ⟨noDigits, read⟩
  · rw [read]
    exact .digits given isDecimal (Binary64.isNearest_ofNat value)
  · rw [read]
    exact .other noDigits

/-- An address allows the number that is read if the part behind the slash spells one of its prefix
lengths. -/
theorem Address.allowsPrefix_readPrefix_iff {address : Address} :
    address.AllowsPrefix (Draft.readPrefix (behind.getD [])) ↔ address.HasLength behind := by
  rcases readPrefix_cases behind with ⟨digits, value, rfl, isDecimal, read⟩ | ⟨noDigits, read⟩
  · rw [read, allowsPrefix_ofNat_iff]
    constructor
    · intro short
      exact ⟨digits, value, rfl, isDecimal, short⟩
    · rintro ⟨_, other, ⟨⟩, otherDecimal, short⟩
      have same := (Text.ofDecimalDigits?_eq_some_iff.mpr isDecimal).symm.trans
        (Text.ofDecimalDigits?_eq_some_iff.mpr otherDecimal)
      rwa [Option.some.inj same]
  · rw [read]
    apply iff_of_false address.not_allowsPrefix_unknownPrefix
    rintro ⟨digits, value, given, isDecimal, -⟩
    exact noDigits digits value given isDecimal

/-! ### What is given for a text -/

/-- An empty text is rejected like an address that is not given. -/
theorem AddressSource.resolve_empty (collapsing : Bool) :
    (AddressSource.text (String.ofList [])).resolve collapsing = .error .missingAddress := by
  cases collapsing <;> decide

theorem AddressSource.gives_ofPart_iff {collapsing : Bool} {address : Address} :
    (ofPart front).Gives collapsing address ↔
      (AddressSource.text (String.ofList front)).Gives collapsing address := by
  by_cases empty : front = []
  · rw [ofPart, if_pos empty, empty]
    have notGiven : ¬ AddressSource.missing.Gives collapsing address := by
      intro gives
      cases gives
    apply iff_of_false notGiven
    intro gives
    cases (resolve_empty collapsing).symm.trans (resolve_eq_ok_iff.mpr gives)
  · rw [ofPart, if_neg empty]

/-- A result is right for the parts of a text that is given flags and a scope, but no lifetimes. -/
structure IsParsed (collapsing : Bool) (front : List Char) (behind : Option (List Char))
    (given : Except Rejection Descriptor) : Prop where
  accepts : (∃ descriptor, given = .ok descriptor) ↔
    ∃ address, (AddressSource.text (String.ofList front)).Gives collapsing address ∧
      address.HasLength behind ∧ ¬ AreMulticast address.octets
  nullAddress : RejectionReason.nullAddress.IsGivenBy given ↔
    ∀ address, ¬ (AddressSource.text (String.ofList front)).Gives collapsing address
  prefixOutOfRange : RejectionReason.prefixOutOfRange.IsGivenBy given ↔
    ∃ address, (AddressSource.text (String.ofList front)).Gives collapsing address ∧
      ¬ address.HasLength behind
  multicastAddress : RejectionReason.multicastAddress.IsGivenBy given ↔
    ∃ address, (AddressSource.text (String.ofList front)).Gives collapsing address ∧
      address.HasLength behind ∧ AreMulticast address.octets

namespace Proposal

variable {proposal : Proposal} {collapsing : Bool} {given : Except Rejection Descriptor}

/-- Lifetimes that are not given break no rule. -/
theorem not_breaks_of_no_lifetimes (noDeprecation : proposal.deprecation = none)
    (noExpiration : proposal.expiration = none) {reason : RejectionReason}
    (late : 3 ≤ reason.rank) : ¬ proposal.Breaks collapsing reason := by
  have deprecates : proposal.deprecates.toInt? = some (-1) := by
    rw [Proposal.deprecates, noDeprecation]
    exact Lifetime.toInt?_unknownNumber
  have expires : proposal.expires.toInt? = some (-1) := by
    rw [Proposal.expires, noExpiration]
    exact Lifetime.toInt?_unknownNumber
  cases reason with
  | nullAddress | prefixOutOfRange | multicastAddress => exact absurd late (by decide)
  | negativeTimestamp => exact not_not_intro ⟨.unknown deprecates, .unknown expires⟩
  | asymmetricLifetime => exact not_not_intro (iff_of_true deprecates expires)
  | deprecationAfterExpiration => exact fun broken => broken.1 deprecates

/-- What is right for the proposal in a text is right for the text. -/
theorem Judges.isParsed (judged : proposal.Judges collapsing given)
    (source : proposal.source = .ofPart front)
    (prefixLength : proposal.prefixLength = some (Draft.readPrefix (behind.getD [])))
    (noDeprecation : proposal.deprecation = none) (noExpiration : proposal.expiration = none) :
    IsParsed collapsing front behind given := by
  have gives_iff {address : Address} : proposal.source.Gives collapsing address ↔
      (AddressSource.text (String.ofList front)).Gives collapsing address := by
    rw [source]
    exact AddressSource.gives_ofPart_iff
  have breaksPrefix {address : Address} (gives : proposal.source.Gives collapsing address) :
      proposal.Breaks collapsing .prefixOutOfRange ↔ ¬ address.HasLength behind := by
    rw [breaks_prefixOutOfRange_iff gives, prefixLength, ← Address.allowsPrefix_readPrefix_iff]
    simp only [Option.some.injEq, forall_eq']
  refine ⟨?accepts, ?nullAddress, ?prefixOutOfRange, ?multicastAddress⟩ <;>
    simp only [← gives_iff]
  case accepts =>
    rw [judged.accepts]
    constructor
    · intro keeps
      obtain ⟨address, gives⟩ := not_forall_not.mp (keeps .nullAddress)
      refine ⟨address, gives, ?_, ?_⟩
      · exact not_not.mp (mt (breaksPrefix gives).mpr (keeps .prefixOutOfRange))
      · exact mt (breaks_multicastAddress_iff gives).mpr (keeps .multicastAddress)
    · rintro ⟨address, gives, hasLength, unicast⟩ reason
      cases reason with
      | nullAddress => exact fun missing => missing address gives
      | prefixOutOfRange => exact fun broken => (breaksPrefix gives).mp broken hasLength
      | multicastAddress => exact mt (breaks_multicastAddress_iff gives).mp unicast
      | negativeTimestamp | asymmetricLifetime | deprecationAfterExpiration =>
        exact not_breaks_of_no_lifetimes noDeprecation noExpiration (by decide)
  case nullAddress =>
    rw [judged.rejects]
    exact and_iff_left keepsBelow_zero
  case prefixOutOfRange =>
    rw [judged.rejects]
    constructor
    · rintro ⟨⟨address, gives, forbidden⟩, -⟩
      exact ⟨address, gives, (breaksPrefix gives).mp ⟨address, gives, forbidden⟩⟩
    · rintro ⟨address, gives, noLength⟩
      exact ⟨(breaksPrefix gives).mpr noLength, keepsBelow_one gives⟩
  case multicastAddress =>
    rw [judged.rejects]
    constructor
    · rintro ⟨⟨address, gives, multicast⟩, keeps⟩
      have kept := keeps .prefixOutOfRange (by decide)
      exact ⟨address, gives, not_not.mp (mt (breaksPrefix gives).mpr kept), multicast⟩
    · rintro ⟨address, gives, hasLength, multicast⟩
      have kept : ¬ proposal.Breaks collapsing .prefixOutOfRange := fun broken =>
        (breaksPrefix gives).mp broken hasLength
      exact ⟨(breaks_multicastAddress_iff gives).mpr multicast,
        (keepsBelow_one gives).next .prefixOutOfRange kept⟩

end Proposal

namespace Descriptor

/-- **A text is accepted exactly if it is an address, a slash and digits.** Taken apart at its first
slash, a text is built like a draft with the two parts, whatever state goes with it. Without
lifetimes the result is a descriptor if the digits spell a prefix length of an address that is not
multicast; else it is a rejection of the address, if it cannot be read whatever is behind the slash,
of the prefix length or of a multicast address. -/
theorem tryParse_isParsed (text : String) (choice : Option Bool) :
    (∃ front behind, IsSplit text.toList front behind) ∧
    ∀ front behind, IsSplit text.toList front behind →
      (∃ number, IsPrefixNumber behind number ∧ ∀ state, tryParse text state choice =
        Draft.tryCreate ⟨.ofPart front, some number, state⟩ choice) ∧
      ∀ flags scope session,
        (∀ given, (tryParse text ⟨flags, scope, none, none⟩ choice session).result = .ok given →
          IsParsed (session.collapses choice) front behind given) ∧
        ∀ config, session.configuration = .ok config →
          (config.logging.admits .debug = true → Log.IsDatable session.wallTime) →
          ∃ given, (tryParse text ⟨flags, scope, none, none⟩ choice session).result =
            .ok given := by
  refine ⟨exists_isSplit text.toList, ?_⟩
  intro front behind split
  have drafted := ofText_of_isSplit split
  constructor
  · refine ⟨_, isPrefixNumber_readPrefix behind, ?_⟩
    intro state
    rw [tryParse, drafted]
  · intro flags scope session
    let proposal : Proposal :=
      ⟨.ofPart front, some (Draft.readPrefix (behind.getD [])), flags, scope, none, none⟩
    have proposed : Draft.ofText text ⟨flags, scope, none, none⟩ = proposal.draft := drafted _
    constructor
    · intro given gave
      rw [tryParse, proposed] at gave
      have judged := proposal.judges_build (session.collapses choice)
      rw [Draft.build_of_tryCreate gave] at judged
      exact judged.isParsed rfl rfl rfl rfl
    · intro config found dated
      exact Draft.exists_tryCreate found (.inl dated)

/-- The first slash counts, even if it is in a zone. -/
theorem tryParse_isParsed_zone :
    let session : Session := ⟨[], some (.forDeployment .production), 0, 0, .capture⟩
    let text := " fe80::1%eth/0/64"
    let parse := tryParse text ⟨some 128, none, none, none⟩ none
    let front := "fe80::1%eth".toList
    let behind := "0/64".toList
    IsSplit text.toList front (some behind) ∧
    (∃ given, (parse session).result = .ok given) ∧
    ∃ rejection, (parse session).result = .ok (.error rejection) ∧
      rejection.reason = .prefixOutOfRange ∧
      IsParsed true front (some behind) (.error rejection) := by
  intro session text parse front behind
  let linkLocal : Address := ⟨[0xfe, 0x80, 0, 0, 0, 0, 0, 0, 0, 0, 0, 0, 0, 0, 0, 1], .inr rfl⟩
  have trimmed : Text.trim text.toList = front ++ '/' :: behind := by
    decide
  have split : IsSplit text.toList front (some behind) :=
    .slash (Text.trim_eq_iff.mp trimmed) (by decide)
  have rejected : (parse session).result =
      .ok (.error (.prefixOutOfRange (some (-1)) linkLocal)) := by
    decide +kernel
  have apart := (tryParse_isParsed text none).2 front (some behind) split
  have parsed := apart.2 (some 128) none session
  exact ⟨split, parsed.2 _ rfl fun _ => by decide, _, rejected, rfl, parsed.1 _ rejected⟩

end Descriptor

end InterfaceAddress
