import InterfaceAddress.Proofs.Address.Netmask
import InterfaceAddress.Proofs.Descriptor.Parsing
import Mathlib

/-! # Sources of a prefix length

A prefix length is written behind the slash of a text, behind the last slash of
a text in a record, or as the netmask of a record (`Value.TellsLength`). The
number is the same whichever source it is taken from, so that with one address
the sources give the same result, whether it is a descriptor or a rejection
(`Descriptor.tryConvert_agrees`).
-/

namespace InterfaceAddress

/-! ### Lengths at the end of a text -/

namespace Text

/-- A text ends in a slash and digits that spell a number. -/
def EndsInLength (text : String) (length : Nat) : Prop :=
  ∃ front digits, text.toList = front ++ '/' :: digits ∧ IsDecimal digits length

variable {front digits : List Char} {length : Nat}

theorem IsDecimal.isDigit (isDecimal : IsDecimal digits length) :
    ∀ char ∈ digits, char.isDigit = true := by
  have read := ofDecimalDigits?_eq_some_iff.mpr isDecimal
  unfold ofDecimalDigits? at read
  split_ifs at read with areDigits
  exact List.all_eq_true.mp areDigits.2

theorem IsDecimal.slashless (isDecimal : IsDecimal digits length) : '/' ∉ digits :=
  fun slash => absurd (isDecimal.isDigit '/' slash) (by decide)

theorem isDecimal_toDigits (length : Nat) : IsDecimal (Nat.toDigits 10 length) length :=
  ofDecimalDigits?_eq_some_iff.mp (ofDecimalDigits?_toDigits length)

theorem toList_append_length (text : String) (length : Nat) :
    (text ++ "/" ++ length.repr).toList = text.toList ++ '/' :: Nat.toDigits 10 length := by
  simp only [Nat.repr, String.toList_append, String.toList_ofList, List.append_assoc]
  rfl

theorem endsInLength_append (text : String) (length : Nat) :
    EndsInLength (text ++ "/" ++ length.repr) length :=
  ⟨_, _, toList_append_length text length, isDecimal_toDigits length⟩

/-- Nothing is trimmed behind digits. -/
theorem isTrimmed_of_isDecimal (starts : ∀ char ∈ front.head?, isBlank char = false)
    (isDecimal : IsDecimal digits length) :
    IsTrimmed (front ++ '/' :: digits) (front ++ '/' :: digits) where
  surrounded := ⟨[], [], by simp⟩
  starts := by
    intro char first
    cases front with
    | nil =>
      cases first
      rfl
    | cons head rest => exact starts char first
  ends := by
    intro char last
    rw [List.getLast?_append_cons, List.getLast?_cons_of_ne_nil isDecimal.nonempty] at last
    obtain ⟨value, isHexDigit⟩ :=
      exists_isHexDigit_of_isDigit (isDecimal.isDigit char (List.mem_of_mem_getLast? last))
    exact isBlank_of_isHexDigit isHexDigit

/-- The part behind the last slash has no slash, and what is in front of it ends in that slash. -/
theorem exists_split_last_slash {text : List Char} (slash : '/' ∈ text) :
    ∃ front, text = front ++ '/' :: text.rtakeWhile (· ≠ '/') := by
  have whole := List.rdropWhile_append_rtakeWhile (p := (· ≠ '/')) (l := text)
  have nonempty : text.rdropWhile (· ≠ '/') ≠ [] := by
    intro empty
    have kept := List.rdropWhile_eq_nil_iff.mp empty '/' slash
    simp at kept
  have last : (text.rdropWhile (· ≠ '/')).getLast nonempty = '/' := by
    simpa using List.rdropWhile_last_not (· ≠ '/') text nonempty
  have front := List.dropLast_append_getLast nonempty
  rw [last] at front
  refine ⟨(text.rdropWhile (· ≠ '/')).dropLast, ?_⟩
  rw [List.append_cons, front, whole]

theorem rtakeWhile_of_slashless (front : List Char) (slashless : '/' ∉ digits) :
    (front ++ '/' :: digits).rtakeWhile (· ≠ '/') = digits := by
  have kept : ∀ char ∈ digits.reverse, decide (char ≠ '/') = true := by
    intro char member
    exact decide_eq_true fun slash => slashless (slash ▸ List.mem_reverse.mp member)
  rw [List.rtakeWhile, List.reverse_append, List.reverse_cons, List.append_assoc,
    List.takeWhile_append_of_pos kept, List.singleton_append,
    List.takeWhile_cons_of_neg (by decide), List.append_nil, List.reverse_reverse]

end Text

open Text (EndsInLength)

/-! ### Prefix lengths of a record -/

namespace InterfaceRecord

variable {text : String} {length : Nat}

/-- The digits behind the last slash are read, however many slashes there are. -/
theorem prefixBehindSlash?_eq_some_iff {number : Binary64} :
    prefixBehindSlash? text = some number ↔
      ∃ length, EndsInLength text length ∧ number = .ofNat length := by
  have behind : (text.toList.reverse.takeWhile (· ≠ '/')).reverse =
      text.toList.rtakeWhile (· ≠ '/') := rfl
  simp only [prefixBehindSlash?, behind, List.contains_iff_mem, List.mem_reverse]
  constructor
  · intro found
    split_ifs at found with slash
    obtain ⟨length, read, rfl⟩ := Option.map_eq_some_iff.mp found
    obtain ⟨front, split⟩ := Text.exists_split_last_slash slash
    exact ⟨length, ⟨front, _, split, Text.ofDecimalDigits?_eq_some_iff.mp read⟩, rfl⟩
  · rintro ⟨length, ⟨front, digits, split, isDecimal⟩, rfl⟩
    have slash : '/' ∈ text.toList := by
      rw [split]
      exact List.mem_append_right _ (List.mem_cons_self ..)
    rw [if_pos slash, split, Text.rtakeWhile_of_slashless front isDecimal.slashless,
      Text.ofDecimalDigits?_eq_some_iff.mpr isDecimal, Option.map_some]

theorem prefixLength_of_cidr {record : InterfaceRecord} (given : record.cidr = some text)
    (ends : EndsInLength text length) : record.prefixLength = .ofNat length := by
  have found := prefixBehindSlash?_eq_some_iff.mpr ⟨length, ends, rfl⟩
  rw [prefixLength, given, Option.bind_some, found]

/-- The netmask counts where no text in slash notation tells a length. -/
theorem prefixLength_of_netmask {record : InterfaceRecord} {mask : Address}
    (noLength : ∀ cidr ∈ record.cidr, ∀ other, ¬ EndsInLength cidr other)
    (given : record.netmask = some text) (read : Address.read? text false = some mask)
    (isMask : mask.IsMask length) : record.prefixLength = .ofNat length := by
  have counted := Netmask.prefixLength?_eq_some_iff.mpr ⟨mask, read, isMask⟩
  have unfound : record.cidr.bind prefixBehindSlash? = none := by
    rw [Option.eq_none_iff_forall_ne_some]
    intro number found
    obtain ⟨cidr, member, behind⟩ := Option.bind_eq_some_iff.mp found
    obtain ⟨other, ends, -⟩ := prefixBehindSlash?_eq_some_iff.mp behind
    exact noLength cidr member other ends
  rw [prefixLength, unfound, given, Option.bind_some, counted, Option.map_some, Option.getD_some]

theorem ofValue?_eq_some {record : Value} {addressText : String}
    (given : record.member "address" = .text addressText) :
    ofValue? record = some ⟨addressText, (record.member "netmask").asText?,
      (record.member "cidr").asText?⟩ := by
  rw [ofValue?, given]
  rfl

end InterfaceRecord

/-- A record tells a prefix length in slash notation, in front of which any text may stand, or in
its netmask if it has no text that ends in a slash and digits. -/
inductive Value.TellsLength (record : Value) (length : Nat) : Prop where
  | cidr (front : String)
      (given : record.member "cidr" = .text (front ++ "/" ++ length.repr))
  | netmask {text : String} {mask : Address}
      (noLength : ∀ cidr, record.member "cidr" = .text cidr → ∀ other, ¬ EndsInLength cidr other)
      (given : record.member "netmask" = .text text)
      (read : Address.read? text false = some mask) (isMask : mask.IsMask length)

theorem Value.asText?_eq_some_iff {value : Value} {text : String} :
    value.asText? = some text ↔ value = .text text := by
  cases value <;> simp [asText?]

/-- The draft of a record with an address that tells a prefix length. -/
theorem Value.TellsLength.toDraft {record : Value} {length : Nat}
    (tells : record.TellsLength length) {addressText : String}
    (given : record.member "address" = .text addressText) (state : DraftState) :
    ∃ read, InterfaceRecord.ofValue? record = some read ∧
      read.toDraft state = ⟨.text addressText, some (.ofNat length), state⟩ := by
  refine ⟨_, InterfaceRecord.ofValue?_eq_some given, ?_⟩
  have number : InterfaceRecord.prefixLength ⟨addressText, (record.member "netmask").asText?,
      (record.member "cidr").asText?⟩ = .ofNat length := by
    cases tells with
    | cidr front cidr =>
      exact InterfaceRecord.prefixLength_of_cidr (asText?_eq_some_iff.mpr cidr)
        (Text.endsInLength_append ..)
    | netmask noLength netmask read isMask =>
      apply InterfaceRecord.prefixLength_of_netmask _ (asText?_eq_some_iff.mpr netmask) read isMask
      intro cidr member
      exact noLength cidr (asText?_eq_some_iff.mp member)
  rw [InterfaceRecord.toDraft, number]

/-! ### One result for all sources -/

namespace Draft

/-- A draft that is rejected whatever is collapsed has one result in every session. -/
theorem tryCreate_result_of_rejected {draft : Draft} {rejection : Rejection}
    (rejected : ∀ collapsing, draft.build collapsing = .error rejection) (choice : Option Bool)
    (session : Session) : (draft.tryCreate choice session).result =
      session.afterLog .debug (.error rejection) := by
  cases found : session.configuration with
  | ok config => rw [tryCreate_result found, rejected]
  | error error =>
    have consults : draft.Consults choice := .inr ⟨rejection, rejected _⟩
    rw [Session.afterLog_of_unconfigured found]
    exact (tryCreate_result_of_unconfigured found draft choice).elim And.right
      fun settled => absurd consults settled.1

/-- An empty part of a text is rejected like a text that is empty. The configuration is asked for
either way, to read the text or to log the rejection. -/
theorem tryCreate_result_ofPart (part : List Char) (number : Option Binary64)
    (state : DraftState) (choice : Option Bool) (session : Session) :
    (tryCreate ⟨.ofPart part, number, state⟩ choice session).result =
      (tryCreate ⟨.text (String.ofList part), number, state⟩ choice session).result := by
  by_cases empty : part = []
  · have missing (collapsing : Bool) :
        build ⟨.missing, number, state⟩ collapsing = .error .missingAddress :=
      build_of_unresolved rfl
    have noText (collapsing : Bool) :
        build ⟨.text (String.ofList []), number, state⟩ collapsing = .error .missingAddress :=
      build_of_unresolved (AddressSource.resolve_empty collapsing)
    rw [AddressSource.ofPart, if_pos empty, empty, tryCreate_result_of_rejected missing,
      tryCreate_result_of_rejected noText]
  · rw [AddressSource.ofPart, if_neg empty]

/-- The length behind the first slash is the one that was written there. -/
theorem ofText_append_length {addressText : String} (slashless : '/' ∉ addressText.toList)
    (starts : ∀ char ∈ addressText.toList.head?, Text.isBlank char = false) (length : Nat)
    (state : DraftState) : ofText (addressText ++ "/" ++ length.repr) state =
      ⟨.ofPart addressText.toList, some (.ofNat length), state⟩ := by
  have isDecimal := Text.isDecimal_toDigits length
  have trimmed := Text.trim_eq_iff.mpr (Text.isTrimmed_of_isDecimal starts isDecimal)
  rw [← Text.toList_append_length] at trimmed
  rw [ofText_of_slash (trimmed.trans (Text.toList_append_length ..)) slashless,
    readPrefix_of_isDecimal isDecimal]

end Draft

namespace Descriptor

/-- **The sources of a prefix length agree.** A text with an address, a slash and a number has the
result of a record that has the address and tells the number, in slash notation or in its netmask:
the same descriptor or the same rejection, and a failure only where both fail. With a configuration
and a date for log entries there is no failure. -/
theorem tryConvert_agrees {addressText : String} (slashless : '/' ∉ addressText.toList)
    (starts : ∀ char ∈ addressText.toList.head?, Text.isBlank char = false) (length : Nat)
    (state : DraftState) (choice : Option Bool) (session : Session) :
    (∀ record : Value, record.member "address" = .text addressText →
      record.TellsLength length → (tryConvert record state choice session).result =
        (tryParse (addressText ++ "/" ++ length.repr) state choice session).result) ∧
    ∀ config, session.configuration = .ok config →
      (config.logging.admits .debug = true → Log.IsDatable session.wallTime) →
      ∃ given, (tryParse (addressText ++ "/" ++ length.repr) state choice session).result =
        .ok given := by
  constructor
  · intro record given tells
    obtain ⟨read, isRead, drafted⟩ := tells.toDraft given state
    rw [tryConvert, isRead, tryParse, Draft.ofText_append_length slashless starts,
      Draft.tryCreate_result_ofPart, String.ofList_toList, ← drafted]
  · intro config found dated
    exact Draft.exists_tryCreate found (.inl dated)

/-- An embedded address that is collapsed allows fewer lengths, however its length is told. -/
theorem tryConvert_agrees_embedded :
    let session : Session := ⟨[], some (.forDeployment .production), 0, 0, .capture⟩
    let text : Value := .object [("address", .text "::ffff:192.0.2.1"), ("netmask", .number 7),
      ("cidr", .text "fe80::/10 or /96")]
    let mask : Value := .object [("address", .text "::ffff:192.0.2.1"), ("cidr", .text "/96 "),
      ("netmask", .text "ffff:ffff:ffff:ffff:ffff:ffff::")]
    ∃ rejection, rejection.reason = .prefixOutOfRange ∧
      (tryParse "::ffff:192.0.2.1/96" .empty none session).result = .ok (.error rejection) ∧
      (tryConvert text .empty none session).result = .ok (.error rejection) ∧
      (tryConvert mask .empty none session).result = .ok (.error rejection) := by
  intro session text mask
  have noLength : ∀ cidr, mask.member "cidr" = .text cidr → ∀ other,
      ¬ EndsInLength cidr other := by
    rintro cidr ⟨⟩ other ends
    have found := InterfaceRecord.prefixBehindSlash?_eq_some_iff.mpr ⟨other, ends, rfl⟩
    have unfound : InterfaceRecord.prefixBehindSlash? "/96 " = none := by
      decide +kernel
    cases unfound.symm.trans found
  have read : Address.read? "ffff:ffff:ffff:ffff:ffff:ffff::" false =
      some (Netmask.ofLength .v6 96) := by
    decide +kernel
  have inMask : mask.TellsLength 96 :=
    .netmask noLength rfl read (Netmask.isMask_ofLength (by decide))
  have written : "fe80::/10 or /96" = "fe80::/10 or " ++ "/" ++ Nat.repr 96 := by
    decide +kernel
  have inText : text.TellsLength 96 := .cidr _ (congrArg Value.text written)
  have rejected : (tryParse "::ffff:192.0.2.1/96" .empty none session).result = .ok (.error
      (.prefixOutOfRange (some 96) ⟨[192, 0, 2, 1], .inl rfl⟩)) := by
    decide +kernel
  have slashless : '/' ∉ "::ffff:192.0.2.1".toList := by
    decide
  have starts : ∀ char ∈ "::ffff:192.0.2.1".toList.head?, Text.isBlank char = false := by
    rintro char ⟨⟩
    rfl
  obtain ⟨agrees, -⟩ := tryConvert_agrees slashless starts 96 .empty none session
  have joined : "::ffff:192.0.2.1" ++ "/" ++ Nat.repr 96 = "::ffff:192.0.2.1/96" := by
    decide +kernel
  rw [joined] at agrees
  exact ⟨_, rfl, rejected, (agrees text rfl inText).trans rejected,
    (agrees mask rfl inMask).trans rejected⟩

end Descriptor

end InterfaceAddress
