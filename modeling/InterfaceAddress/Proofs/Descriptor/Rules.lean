import InterfaceAddress.Proofs.Address.Writing
import InterfaceAddress.Proofs.Number.Equality
import InterfaceAddress.Proofs.Session.Attempt
import Mathlib

/-! # The rules for a descriptor

A proposal has an address, or none, and numbers that may be any numbers. Six
rules are stated about them, each with the reason for which a proposal that
breaks it is rejected (`Proposal.Breaks`). The reason that is given is that of
the first rule that is broken, and a proposal that breaks none becomes a
descriptor that holds what was proposed (`Proposal.judges_build`). In a session
the same holds of every result (`Proposal.tryCreate_judges`).
-/

namespace InterfaceAddress

open Wire

/-! ### Numbers of lifetimes -/

namespace Binary64

variable {number other : Binary64} {value : Int}

/-- A number that stands for a lifetime: `-1` if it is unknown, infinity if it has no end, or else
a safe integer that is not negative. -/
inductive IsLifetime (number : Binary64) : Prop where
  | unknown (isUnknown : number.toInt? = some (-1)) : IsLifetime number
  | permanent (isPermanent : number = .infinity false) : IsLifetime number
  | instant {time : Int} (isInteger : number.toInt? = some time) (nonnegative : 0 ≤ time)
      (safe : time ≤ 2 ^ 53 - 1) : IsLifetime number

theorem toInt?_of_same (same : number.same other = true) (isInteger : other.toInt? = some value) :
    number.toInt? = some value := by
  obtain ⟨negative, magnitude, rfl, exact⟩ := toInt?_eq_some_iff.mp isInteger
  rw [Binary64.same, Bool.and_eq_true] at same
  obtain ⟨below, above⟩ := same
  cases number with
  | nan => cases below
  | infinity sign =>
    cases sign with
    | false => cases below
    | true => cases above
  | finite sign size =>
    rw [le, decide_eq_true_eq] at below above
    exact toInt?_eq_some_iff.mpr ⟨sign, size, rfl, (Int.le_antisymm below above).trans exact⟩

/-- Apart from zero an integer is one number. -/
theorem eq_of_toInt? (isInteger : number.toInt? = some value)
    (alsoInteger : other.toInt? = some value) (nonzero : value ≠ 0) : number = other := by
  obtain ⟨negative, magnitude, rfl, exact⟩ := toInt?_eq_some_iff.mp isInteger
  obtain ⟨otherNegative, otherMagnitude, rfl, otherExact⟩ := toInt?_eq_some_iff.mp alsoInteger
  apply (eq_or_units_eq_zero (exact.trans otherExact.symm)).resolve_right
  rw [units_of_signedUnits exact]
  exact Nat.mul_ne_zero (Int.natAbs_ne_zero.mpr nonzero) Magnitude.unitsPerOne_pos.ne'

theorem same_infinity_iff : number.same (.infinity false) = true ↔ number = .infinity false := by
  cases number with
  | nan => decide
  | infinity sign => cases sign <;> decide
  | finite negative magnitude => exact iff_of_false Bool.false_ne_true nofun

end Binary64

namespace Lifetime

variable {number : Binary64}

theorem same_unknownNumber_iff :
    number.same unknownNumber = true ↔ number.toInt? = some (-1) := by
  constructor
  · intro same
    exact Binary64.toInt?_of_same same toInt?_unknownNumber
  · intro isUnknown
    exact (Binary64.same_iff_of_toInt? isUnknown toInt?_unknownNumber).mpr rfl

theorem ofNumber_cases (number : Binary64) :
    (number.toInt? = some (-1) ∧ ofNumber number = .unknown) ∨
    (number = .infinity false ∧ ofNumber number = .permanent) ∨
    (number.toInt? ≠ some (-1) ∧ number ≠ .infinity false ∧
      ofNumber number = .instant number) := by
  unfold ofNumber
  by_cases isUnknown : number.toInt? = some (-1)
  · exact .inl ⟨isUnknown, if_pos (same_unknownNumber_iff.mpr isUnknown)⟩
  · rw [if_neg (mt same_unknownNumber_iff.mp isUnknown)]
    by_cases permanent : number = .infinity false
    · exact .inr (.inl ⟨permanent, if_pos (Binary64.same_infinity_iff.mpr permanent)⟩)
    · exact .inr (.inr ⟨isUnknown, permanent, if_neg (mt Binary64.same_infinity_iff.mp permanent)⟩)

theorem ofNumber_unknownNumber : ofNumber unknownNumber = .unknown :=
  if_pos (same_unknownNumber_iff.mpr toInt?_unknownNumber)

theorem isUnknown_ofNumber : (ofNumber number).isUnknown = true ↔ number.toInt? = some (-1) := by
  rcases ofNumber_cases number with ⟨isUnknown, equal⟩ | ⟨rfl, equal⟩ | ⟨known, -, equal⟩
  · rw [equal]
    exact iff_of_true rfl isUnknown
  · rw [equal]
    exact iff_of_false Bool.false_ne_true nofun
  · rw [equal]
    exact iff_of_false Bool.false_ne_true known

/-- No number is lost in a lifetime. -/
theorem toNumber_ofNumber (number : Binary64) : (ofNumber number).toNumber = number := by
  rcases ofNumber_cases number with ⟨isUnknown, equal⟩ | ⟨rfl, equal⟩ | ⟨-, -, equal⟩
  · rw [equal]
    exact Binary64.eq_of_toInt? toInt?_unknownNumber isUnknown (by decide)
  · rw [equal]
    rfl
  · rw [equal]
    rfl

theorem isAcceptable_ofNumber : (ofNumber number).isAcceptable = true ↔ number.IsLifetime := by
  rcases ofNumber_cases number with ⟨isUnknown, equal⟩ | ⟨rfl, equal⟩ | ⟨known, ends, equal⟩
  · rw [equal]
    exact iff_of_true rfl (.unknown isUnknown)
  · rw [equal]
    exact iff_of_true rfl (.permanent rfl)
  · rw [equal, isAcceptable]
    constructor
    · intro acceptable
      cases found : number.toSafeInt? with
      | none => simp [found] at acceptable
      | some time =>
        obtain ⟨isInteger, safe⟩ := Binary64.toSafeInt?_eq_some_iff.mp found
        rw [found, Option.map_some, Option.getD_some, decide_eq_true_eq] at acceptable
        rw [Binary64.maxSafeInteger] at safe
        exact .instant isInteger acceptable (by omega)
    · intro isLifetime
      cases isLifetime with
      | unknown isUnknown => exact absurd isUnknown known
      | permanent isPermanent => exact absurd isPermanent ends
      | @instant time isInteger nonnegative safe =>
        have small : time.natAbs ≤ Binary64.maxSafeInteger.natAbs := by
          rw [Binary64.maxSafeInteger]
          omega
        rw [Binary64.toSafeInt?_eq_some_iff.mpr ⟨isInteger, small⟩, Option.map_some,
          Option.getD_some, decide_eq_true nonnegative]

end Lifetime

/-! ### Addresses and prefix lengths -/

/-- The address that a source gives. A text gives the address that it denotes, where one that embeds
another is collapsed on request. -/
inductive AddressSource.Gives (collapsing : Bool) : AddressSource → Address → Prop where
  | address (given : Address) : Gives collapsing (.address given) given
  | denoted {text : String} {address : Address}
      (denotes : Address.Denotes text.toList address.octets) (kept : collapsing = false) :
      Gives collapsing (.text text) address
  | collapsed {text : String} {denoted address : Address}
      (denotes : Address.Denotes text.toList denoted.octets) (collapses : collapsing = true)
      (becomes : denoted.CollapsesTo address) : Gives collapsing (.text text) address

theorem Address.CollapsesTo.collapse_eq {address collapsed : Address}
    (becomes : address.CollapsesTo collapsed) : address.collapse = collapsed := by
  cases becomes with
  | embedded embeds => exact embeds.collapse_eq
  | itself embedsNone => exact collapse_of_embeds_none embedsNone

namespace AddressSource

variable {source : AddressSource} {collapsing : Bool}

theorem resolve_text_eq_ok_iff {text : String} {address : Address} :
    (AddressSource.text text).resolve collapsing = .ok address ↔
      Address.read? text collapsing = some address := by
  rw [resolve]
  cases Address.read? text collapsing <;> simp

theorem resolve_eq_ok_iff {address : Address} :
    source.resolve collapsing = .ok address ↔ source.Gives collapsing address := by
  constructor
  · intro resolved
    cases source with
    | missing => cases resolved
    | address given =>
      cases resolved
      exact .address _
    | text given =>
      obtain ⟨octets, denotes, made⟩ :=
        Address.read?_eq_some_iff.mp (resolve_text_eq_ok_iff.mp resolved)
      obtain ⟨denoted, rfl, rfl⟩ := Address.ofOctets?_eq_some_iff.mp made
      cases collapsing with
      | false => exact .denoted denotes rfl
      | true => exact .collapsed denotes rfl denoted.collapsesTo_collapse
  · intro gives
    cases gives with
    | address given => rfl
    | denoted denotes kept =>
      rw [kept]
      exact resolve_text_eq_ok_iff.mpr (Address.read?_eq_some_iff.mpr
        ⟨_, denotes, Address.ofOctets?_eq_some_iff.mpr ⟨_, rfl, rfl⟩⟩)
    | collapsed denotes collapses becomes =>
      rw [collapses, ← becomes.collapse_eq]
      exact resolve_text_eq_ok_iff.mpr (Address.read?_eq_some_iff.mpr
        ⟨_, denotes, Address.ofOctets?_eq_some_iff.mpr ⟨_, rfl, rfl⟩⟩)

/-- A source gives one address. -/
theorem Gives.unique {address other : Address} (gives : source.Gives collapsing address)
    (also : source.Gives collapsing other) : address = other :=
  Except.ok.inj ((resolve_eq_ok_iff.mpr gives).symm.trans (resolve_eq_ok_iff.mpr also))

/-- A source that gives no address is rejected for one reason. -/
theorem reason_of_resolve {rejection : Rejection}
    (unresolved : source.resolve collapsing = .error rejection) :
    rejection.reason = .nullAddress := by
  cases source with
  | missing =>
    cases unresolved
    rfl
  | address given => cases unresolved
  | text given =>
    rw [resolve] at unresolved
    split at unresolved
    · cases unresolved
    · split at unresolved
      · cases unresolved
        rfl
      · cases unresolved
        rfl

end AddressSource

/-- A prefix length is an integer from zero to 32 for an address of four octets, to 128 for one of
sixteen. -/
def Address.AllowsPrefix (address : Address) (number : Binary64) : Prop :=
  ∃ length : Int, number.toInt? = some length ∧ 0 ≤ length ∧
    length ≤ if address.octets.length = 4 then 32 else 128

theorem Address.fitsPrefix_iff {address : Address} {number : Binary64} :
    address.FitsPrefix number ↔ address.AllowsPrefix number := by
  have width : (address.family.width : Int) = if address.octets.length = 4 then 32 else 128 := by
    rw [address.width_family]
    rcases address.length_octets with four | sixteen
    · rw [if_pos four, four]
      rfl
    · rw [if_neg (by omega), sixteen]
      rfl
  rw [AllowsPrefix, ← width]
  constructor
  · rintro ⟨length, isInteger, short⟩
    exact ⟨length, isInteger, Int.natCast_nonneg length, Int.ofNat_le.mpr short⟩
  · rintro ⟨length, isInteger, nonnegative, short⟩
    lift length to Nat using nonnegative
    exact ⟨length, isInteger, Int.ofNat_le.mp short⟩

/-! ### The rules -/

/-- What a descriptor is to be built from: an address, or none, and numbers. -/
structure Proposal where
  source : AddressSource
  prefixLength : Option Binary64
  flags : Option Binary64
  scope : Option Binary64
  deprecation : Option Binary64
  expiration : Option Binary64

/-- The order in which the rules are checked. -/
def RejectionReason.rank : RejectionReason → Nat
  | nullAddress => 0
  | prefixOutOfRange => 1
  | multicastAddress => 2
  | negativeTimestamp => 3
  | asymmetricLifetime => 4
  | deprecationAfterExpiration => 5

/-- A result is a rejection for a reason. -/
def RejectionReason.IsGivenBy (reason : RejectionReason) (given : Except Rejection Descriptor) :
    Prop :=
  ∃ rejection, given = .error rejection ∧ rejection.reason = reason

theorem RejectionReason.rank_injective : Function.Injective rank := by
  intro reason other same
  cases reason <;> cases other <;> first | rfl | cases same

theorem RejectionReason.rank_lt (reason : RejectionReason) : reason.rank < 6 := by
  cases reason <;> decide

namespace Proposal

def draft (proposal : Proposal) : Draft where
  address := proposal.source
  prefixLength := proposal.prefixLength
  state := ⟨proposal.flags, proposal.scope, proposal.deprecation.map Lifetime.ofNumber,
    proposal.expiration.map Lifetime.ofNumber⟩

/-- The number of the first lifetime; it is unknown where it is not given. -/
def deprecates (proposal : Proposal) : Binary64 :=
  proposal.deprecation.getD Lifetime.unknownNumber

/-- The number of the second lifetime; it is unknown where it is not given. -/
def expires (proposal : Proposal) : Binary64 :=
  proposal.expiration.getD Lifetime.unknownNumber

/-- Whether a proposal breaks the rule of a reason. -/
def Breaks (proposal : Proposal) (collapsing : Bool) : RejectionReason → Prop
  | .nullAddress => ∀ address, ¬ proposal.source.Gives collapsing address
  | .prefixOutOfRange => ∃ address, proposal.source.Gives collapsing address ∧
      ∀ number, proposal.prefixLength = some number → ¬ address.AllowsPrefix number
  | .multicastAddress => ∃ address, proposal.source.Gives collapsing address ∧
      AreMulticast address.octets
  | .negativeTimestamp => ¬ (proposal.deprecates.IsLifetime ∧ proposal.expires.IsLifetime)
  | .asymmetricLifetime =>
      ¬ (proposal.deprecates.toInt? = some (-1) ↔ proposal.expires.toInt? = some (-1))
  | .deprecationAfterExpiration => proposal.deprecates.toInt? ≠ some (-1) ∧
      proposal.expires.toInt? ≠ some (-1) ∧ proposal.expires.lt proposal.deprecates = true

/-- No rule of a lower rank is broken. -/
def KeepsBelow (proposal : Proposal) (collapsing : Bool) (rank : Nat) : Prop :=
  ∀ earlier : RejectionReason, earlier.rank < rank → ¬ proposal.Breaks collapsing earlier

/-- The rule of a reason is the first that is broken. -/
def BreaksFirst (proposal : Proposal) (collapsing : Bool) (reason : RejectionReason) : Prop :=
  proposal.Breaks collapsing reason ∧ proposal.KeepsBelow collapsing reason.rank

/-- A descriptor holds what was proposed. -/
structure IsHeldBy (proposal : Proposal) (collapsing : Bool) (descriptor : Descriptor) :
    Prop where
  address : proposal.source.Gives collapsing descriptor.address
  prefixLength : proposal.prefixLength = some descriptor.prefixLength
  flags : descriptor.storedFlags = proposal.flags.getD 0
  scope : descriptor.scope = proposal.scope.getD descriptor.address.scope.number
  deprecation : descriptor.lifetimes.deprecation.toNumber = proposal.deprecates
  expiration : descriptor.lifetimes.expiration.toNumber = proposal.expires

/-- A result is right for a proposal: an error has the reason of the first rule that is broken, and
a descriptor, which holds what was proposed, is given if none is. -/
structure Judges (proposal : Proposal) (collapsing : Bool)
    (given : Except Rejection Descriptor) : Prop where
  rejects : ∀ reason, reason.IsGivenBy given ↔ proposal.BreaksFirst collapsing reason
  accepts : (∃ descriptor, given = .ok descriptor) ↔
    ∀ reason, ¬ proposal.Breaks collapsing reason
  holds : ∀ descriptor, given = .ok descriptor → proposal.IsHeldBy collapsing descriptor

variable {proposal : Proposal} {collapsing : Bool} {reason : RejectionReason}

theorem KeepsBelow.next (reason : RejectionReason)
    (keeps : proposal.KeepsBelow collapsing reason.rank)
    (kept : ¬ proposal.Breaks collapsing reason) :
    proposal.KeepsBelow collapsing (reason.rank + 1) := by
  intro earlier below
  rcases Nat.lt_succ_iff_lt_or_eq.mp below with lower | same
  · exact keeps earlier lower
  · rw [RejectionReason.rank_injective same]
    exact kept

theorem keepsBelow_zero : proposal.KeepsBelow collapsing 0 :=
  fun _ below => absurd below (Nat.not_lt_zero _)

theorem keepsBelow_one {address : Address} (gives : proposal.source.Gives collapsing address) :
    proposal.KeepsBelow collapsing 1 :=
  keepsBelow_zero.next .nullAddress fun missing => missing address gives

/-- The rule about prefix lengths, where the address is known. -/
theorem breaks_prefixOutOfRange_iff {address : Address}
    (gives : proposal.source.Gives collapsing address) :
    proposal.Breaks collapsing .prefixOutOfRange ↔
      ∀ number, proposal.prefixLength = some number → ¬ address.AllowsPrefix number := by
  constructor
  · rintro ⟨other, also, forbidden⟩
    rw [gives.unique also]
    exact forbidden
  · intro forbidden
    exact ⟨address, gives, forbidden⟩

/-- The rule about multicast addresses, where the address is known. -/
theorem breaks_multicastAddress_iff {address : Address}
    (gives : proposal.source.Gives collapsing address) :
    proposal.Breaks collapsing .multicastAddress ↔ AreMulticast address.octets := by
  constructor
  · rintro ⟨other, also, areMulticast⟩
    rw [gives.unique also]
    exact areMulticast
  · intro areMulticast
    exact ⟨address, gives, areMulticast⟩

/-- Only one rule is the first that is broken. -/
theorem BreaksFirst.unique {other : RejectionReason}
    (first : proposal.BreaksFirst collapsing reason)
    (otherFirst : proposal.BreaksFirst collapsing other) : reason = other := by
  rcases Nat.lt_trichotomy reason.rank other.rank with lower | same | higher
  · exact absurd first.1 (otherFirst.2 reason lower)
  · exact RejectionReason.rank_injective same
  · exact absurd otherFirst.1 (first.2 other higher)

theorem Judges.of_error {rejection : Rejection}
    (first : proposal.BreaksFirst collapsing rejection.reason) :
    proposal.Judges collapsing (.error rejection) where
  rejects reason := by
    constructor
    · rintro ⟨also, ⟨⟩, rfl⟩
      exact first
    · intro otherFirst
      exact ⟨rejection, rfl, first.unique otherFirst⟩
  accepts := by
    constructor
    · rintro ⟨descriptor, ⟨⟩⟩
    · intro keeps
      exact absurd first.1 (keeps rejection.reason)
  holds descriptor given := by cases given

theorem Judges.of_ok {descriptor : Descriptor}
    (keeps : ∀ reason, ¬ proposal.Breaks collapsing reason)
    (held : proposal.IsHeldBy collapsing descriptor) :
    proposal.Judges collapsing (.ok descriptor) where
  rejects reason := by
    constructor
    · rintro ⟨rejection, ⟨⟩, -⟩
    · intro first
      exact absurd first.1 (keeps reason)
  accepts := iff_of_true ⟨descriptor, rfl⟩ keeps
  holds := by
    rintro also ⟨⟩
    exact held

/-! ### The rules and what is built -/

theorem lifetimes_draft (proposal : Proposal) : proposal.draft.lifetimes =
    ⟨.ofNumber proposal.deprecates, .ofNumber proposal.expires⟩ := by
  rw [Draft.lifetimes, deprecates, expires, draft]
  cases proposal.deprecation <;> cases proposal.expiration <;>
    simp only [Option.map_some, Option.map_none, Option.getD_some, Option.getD_none,
      Lifetime.ofNumber_unknownNumber]

open Classical in
/-- The first rule about two lifetimes that is broken, told by their numbers. -/
theorem violation?_ofNumber (deprecates expires : Binary64) :
    (⟨.ofNumber deprecates, .ofNumber expires⟩ : Lifetimes).violation?.map
        LifetimeViolation.reason =
      if ¬ (deprecates.IsLifetime ∧ expires.IsLifetime) then some .negativeTimestamp
      else if ¬ (deprecates.toInt? = some (-1) ↔ expires.toInt? = some (-1)) then
        some .asymmetricLifetime
      else if deprecates.toInt? ≠ some (-1) ∧ expires.toInt? ≠ some (-1) ∧
          expires.lt deprecates = true then
        some .deprecationAfterExpiration
      else none := by
  have oneUnknown : ((Lifetime.ofNumber deprecates).isUnknown !=
      (Lifetime.ofNumber expires).isUnknown) = true ↔
        ¬ (deprecates.toInt? = some (-1) ↔ expires.toInt? = some (-1)) := by
    rw [bne_iff_ne, ne_eq, Bool.eq_iff_iff, Lifetime.isUnknown_ofNumber,
      Lifetime.isUnknown_ofNumber]
  simp only [Lifetimes.violation?, Bool.not_eq_true', ← Bool.not_eq_true, Bool.and_eq_true,
    Lifetime.isAcceptable_ofNumber, Lifetime.isUnknown_ofNumber, Lifetime.toNumber_ofNumber,
    oneUnknown]
  by_cases both : deprecates.IsLifetime ∧ expires.IsLifetime
  · simp only [both.1, both.2, and_self, not_true_eq_false, ↓reduceIte]
    by_cases together : deprecates.toInt? = some (-1) ↔ expires.toInt? = some (-1)
    · -- where one is known, the other is known as well
      have known : deprecates.toInt? ≠ some (-1) ∧ expires.toInt? ≠ some (-1) ∧
          expires.lt deprecates = true ↔
            ¬ deprecates.toInt? = some (-1) ∧ expires.lt deprecates = true := by
        rw [together]
        tauto
      rw [if_neg (not_not_intro together), if_neg (not_not_intro together)]
      simp only [known]
      split_ifs <;> rfl
    · rw [if_pos together, if_pos together]
      rfl
  · rw [if_pos both]
    by_cases first : deprecates.IsLifetime
    · simp only [first, not_true_eq_false, ↓reduceIte]
      rw [if_pos fun second => both ⟨first, second⟩]
      rfl
    · rw [if_pos first]
      rfl

/-- Where the rules about address and prefix length are kept, the lifetimes decide. -/
theorem judges_lifetimes (keeps : proposal.KeepsBelow collapsing 3) :
    match proposal.draft.lifetimes.violation?.map LifetimeViolation.reason with
    | some reason => proposal.BreaksFirst collapsing reason
    | none => ∀ reason, ¬ proposal.Breaks collapsing reason := by
  rw [lifetimes_draft, violation?_ofNumber]
  by_cases timestamps : ¬ (proposal.deprecates.IsLifetime ∧ proposal.expires.IsLifetime)
  · rw [if_pos timestamps]
    exact ⟨timestamps, keeps⟩
  rw [if_neg timestamps]
  have keepsTimestamps := keeps.next .negativeTimestamp timestamps
  by_cases oneUnknown :
      ¬ (proposal.deprecates.toInt? = some (-1) ↔ proposal.expires.toInt? = some (-1))
  · rw [if_pos oneUnknown]
    exact ⟨oneUnknown, keepsTimestamps⟩
  rw [if_neg oneUnknown]
  have keepsUnknown := keepsTimestamps.next .asymmetricLifetime oneUnknown
  by_cases late : proposal.deprecates.toInt? ≠ some (-1) ∧
      proposal.expires.toInt? ≠ some (-1) ∧ proposal.expires.lt proposal.deprecates = true
  · rw [if_pos late]
    exact ⟨late, keepsUnknown⟩
  rw [if_neg late]
  intro reason
  exact keepsUnknown.next .deprecationAfterExpiration late reason reason.rank_lt

/-- What is built from a proposal is right for it. -/
theorem judges_build (proposal : Proposal) (collapsing : Bool) :
    proposal.Judges collapsing (proposal.draft.build collapsing) := by
  cases resolved : proposal.source.resolve collapsing with
  | error rejection =>
    have missing : proposal.Breaks collapsing .nullAddress := by
      intro address gives
      cases resolved.symm.trans (AddressSource.resolve_eq_ok_iff.mpr gives)
    rw [Draft.build_of_unresolved resolved]
    apply Judges.of_error
    rw [AddressSource.reason_of_resolve resolved]
    exact ⟨missing, keepsBelow_zero⟩
  | ok address =>
    have gives := AddressSource.resolve_eq_ok_iff.mp resolved
    have keepsAddress := keepsBelow_one gives
    by_cases misfit : proposal.Breaks collapsing .prefixOutOfRange
    · have outOfRange : ∀ number, proposal.prefixLength = some number →
          ¬ address.FitsPrefix number := by
        simpa only [Address.fitsPrefix_iff] using (breaks_prefixOutOfRange_iff gives).mp misfit
      rw [Draft.build_of_not_fitsPrefix resolved outOfRange]
      exact Judges.of_error ⟨misfit, keepsAddress⟩
    obtain ⟨number, given, allowed⟩ :
        ∃ number, proposal.prefixLength = some number ∧ address.AllowsPrefix number := by
      simpa only [breaks_prefixOutOfRange_iff gives, not_forall, not_not, exists_prop] using misfit
    have keepsPrefix := keepsAddress.next .prefixOutOfRange misfit
    rw [Draft.build_of_fitsPrefix resolved given (Address.fitsPrefix_iff.mpr allowed)]
    by_cases multicast : proposal.Breaks collapsing .multicastAddress
    · have isMulticast := (breaks_multicastAddress_iff gives).mp multicast
      rw [if_pos (address.isMulticast_iff.mpr isMulticast)]
      exact Judges.of_error ⟨multicast, keepsPrefix⟩
    have isUnicast := mt (breaks_multicastAddress_iff gives).mpr multicast
    rw [if_neg (mt address.isMulticast_iff.mp isUnicast)]
    have judged := judges_lifetimes (keepsPrefix.next .multicastAddress multicast)
    cases violated : proposal.draft.lifetimes.violation? with
    | some violation =>
      rw [violated] at judged
      exact Judges.of_error judged
    | none =>
      rw [violated] at judged
      apply Judges.of_ok judged
      refine ⟨gives, given, rfl, rfl, ?_, ?_⟩
      · rw [Draft.toDescriptor, lifetimes_draft]
        exact Lifetime.toNumber_ofNumber proposal.deprecates
      · rw [Draft.toDescriptor, lifetimes_draft]
        exact Lifetime.toNumber_ofNumber proposal.expires

end Proposal

/-! ### In a session -/

/-- Whether embedded addresses are collapsed: as the caller chooses, or else as the configuration
says. -/
def Session.collapses (session : Session) (choice : Option Bool) : Bool :=
  choice.getD (session.configuration.toOption.elim false (·.address.collapseMapped))

theorem Session.collapses_of_configuration {session : Session} {config : Config}
    (found : session.configuration = .ok config) (choice : Option Bool) :
    session.collapses choice = choice.getD config.address.collapseMapped := by
  rw [collapses, found]
  rfl

/-- What is given in a session is what is built. -/
theorem Draft.build_of_tryCreate {draft : Draft} {choice : Option Bool} {session : Session}
    {given : Except Rejection Descriptor}
    (gave : (draft.tryCreate choice session).result = .ok given) :
    draft.build (session.collapses choice) = given := by
  cases found : session.configuration with
  | ok config =>
    rw [tryCreate_result found, ← Session.collapses_of_configuration found] at gave
    cases built : draft.build (session.collapses choice) with
    | ok descriptor =>
      rw [built] at gave
      exact Except.ok.inj gave
    | error rejection =>
      rw [built] at gave
      exact (Session.eq_of_afterLog gave).symm
  | error error =>
    have collapsing : session.collapses choice = choice.getD false := by
      rw [Session.collapses, found]
      rfl
    rcases tryCreate_result_of_unconfigured found draft choice with
      ⟨-, failed⟩ | ⟨settled, -⟩
    · cases failed.symm.trans gave
    · -- neither the address nor a rejection asked for the configuration
      have chosen := collapsing_run_of_not_leavesOpen (settled ∘ .inl) session
      cases built : draft.build (choice.getD false) with
      | ok descriptor =>
        rw [tryCreate_run_of_ok chosen built] at gave
        rw [collapsing, built]
        exact Except.ok.inj gave
      | error rejection => exact absurd (.inr ⟨rejection, built⟩) settled

/-- With a configuration a result is given, unless an entry about a rejection cannot be dated. -/
theorem Draft.exists_tryCreate {draft : Draft} {choice : Option Bool} {session : Session}
    {config : Config} (found : session.configuration = .ok config)
    (dated : (config.logging.admits .debug = true → Log.IsDatable session.wallTime) ∨
      ∃ descriptor, draft.build (session.collapses choice) = .ok descriptor) :
    ∃ given, (draft.tryCreate choice session).result = .ok given := by
  rw [tryCreate_result found, ← Session.collapses_of_configuration found]
  cases built : draft.build (session.collapses choice) with
  | ok descriptor => exact ⟨.ok descriptor, rfl⟩
  | error rejection =>
    refine ⟨.error rejection, (Session.afterLog_of_configuration found _).trans (if_neg ?_)⟩
    rintro ⟨admitted, undated⟩
    rcases dated with datable | ⟨descriptor, accepted⟩
    · exact undated (datable admitted)
    · cases built.symm.trans accepted

namespace Proposal

/-- **A proposal is accepted exactly if it breaks no rule.** In every session a result that is given
is right for the proposal: the reason of a rejection is that of the first rule that is broken. With
a configuration a result is given, unless an entry about a rejection cannot be dated. -/
theorem tryCreate_judges (proposal : Proposal) (choice : Option Bool) (session : Session) :
    (∀ given, (proposal.draft.tryCreate choice session).result = .ok given →
      proposal.Judges (session.collapses choice) given) ∧
    (∀ config, session.configuration = .ok config →
      (config.logging.admits .debug = true → Log.IsDatable session.wallTime) ∨
        (∀ reason, ¬ proposal.Breaks (session.collapses choice) reason) →
      ∃ given, (proposal.draft.tryCreate choice session).result = .ok given) := by
  have judged := proposal.judges_build (session.collapses choice)
  constructor
  · intro given gave
    rw [Draft.build_of_tryCreate gave] at judged
    exact judged
  · intro config found dated
    exact Draft.exists_tryCreate found (dated.imp_right judged.accepts.mpr)

/-- Whether an address is collapsed decides which prefix lengths it allows. -/
theorem tryCreate_judges_collapsed :
    let config : Config := .forDeployment .production
    let session : Session := ⟨[], some config, 0, 0, .capture⟩
    let proposal : Proposal :=
      ⟨.text "::ffff:192.0.2.1", some 33, some .nan, none, some (-0), some (.infinity false)⟩
    proposal.BreaksFirst true .prefixOutOfRange ∧
    (∃ given, (proposal.draft.tryCreate none session).result = .ok given) ∧
    ∃ descriptor, (proposal.draft.tryCreate (some false) session).result = .ok (.ok descriptor) ∧
      proposal.IsHeldBy false descriptor := by
  intro config session proposal
  let embedded : Address := ⟨[192, 0, 2, 1], .inl rfl⟩
  let embedding : Address := ⟨[0, 0, 0, 0, 0, 0, 0, 0, 0, 0, 255, 255, 192, 0, 2, 1], .inr rfl⟩
  let descriptor : Descriptor := ⟨embedding, 33, .nan, 0, ⟨.instant (-0), .permanent⟩⟩
  have rejected : (proposal.draft.tryCreate none session).result =
      .ok (.error (.prefixOutOfRange (some 33) embedded)) := by
    decide +kernel
  have accepted : (proposal.draft.tryCreate (some false) session).result =
      .ok (.ok descriptor) := by
    decide +kernel
  have collapsed := tryCreate_judges proposal none session
  have kept := tryCreate_judges proposal (some false) session
  have first := ((collapsed.1 _ rejected).rejects .prefixOutOfRange).mp ⟨_, rfl, rfl⟩
  have given := collapsed.2 config rfl (.inl fun _ => by decide)
  exact ⟨first, given, descriptor, accepted, (kept.1 _ accepted).holds descriptor rfl⟩

end Proposal

end InterfaceAddress
