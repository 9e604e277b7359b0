import InterfaceAddress.Proofs.Session.Records
import Mathlib

/-! # Where descriptors come from

A descriptor is obtained by building a draft, reading a text, converting a record
of the operating system, taking a snapshot or decoding a record
(`Descriptor.Obtained`). Each of these ways builds a draft, so that every
descriptor that is obtained is well formed (`Descriptor.Obtained.wellFormed`).
-/

namespace InterfaceAddress

open Wire

/-- A descriptor that some operation gives in some session. -/
inductive Descriptor.Obtained (descriptor : Descriptor) : Prop where
  | tryCreate {draft : Draft} {choice : Option Bool} {session : Session}
      (given : (draft.tryCreate choice session).result = .ok (.ok descriptor))
  | create {draft : Draft} {choice : Option Bool} {session : Session}
      (given : (draft.create choice session).result = .ok descriptor)
  | tryParse {text : String} {state : DraftState} {choice : Option Bool} {session : Session}
      (given : (Descriptor.tryParse text state choice session).result = .ok (.ok descriptor))
  | parse {text : String} {state : DraftState} {choice : Option Bool} {session : Session}
      (given : (Descriptor.parse text state choice session).result = .ok descriptor)
  | tryConvert {record : Value} {state : DraftState} {choice : Option Bool} {session : Session}
      (given : (Descriptor.tryConvert record state choice session).result = .ok (.ok descriptor))
  | convert {record : Value} {state : DraftState} {choice : Option Bool} {session : Session}
      (given : (Descriptor.convert record state choice session).result = .ok descriptor)
  | snapshot {source : InterfaceSource} {choice : Option Bool} {session : Session}
      {taken : List (String × List Descriptor)} {interface : String × List Descriptor}
      (given : (Snapshot.take source choice session).result = .ok taken)
      (listed : interface ∈ taken) (member : descriptor ∈ interface.2)
  | tryDecode {octets : List UInt8} {choice : Option Bool} {session : Session} {layout : Layout}
      (given : (Wire.tryDecode octets choice session).result = .ok (.ok (descriptor, layout)))
  | decodeOrFail {octets : List UInt8} {choice : Option Bool} {session : Session} {layout : Layout}
      (given : (Wire.decodeOrFail octets choice session).result = .ok (descriptor, layout))

variable {descriptor : Descriptor} {choice : Option Bool} {session : Session}

/-! ### Records of the operating system -/

theorem Descriptor.exists_build_of_tryConvert {record : Value} {state : DraftState}
    (given : (Descriptor.tryConvert record state choice session).result = .ok (.ok descriptor)) :
    ∃ draft collapsing, Draft.build draft collapsing = .ok descriptor := by
  rw [tryConvert] at given
  cases found : InterfaceRecord.ofValue? record with
  | none =>
    rw [found] at given
    cases given
  | some record =>
    rw [found] at given
    obtain ⟨collapsing, built⟩ := Draft.exists_build_of_tryCreate given
    exact ⟨_, collapsing, built⟩

namespace Snapshot

theorem exists_build_of_ofRecord {interface : String} {record : Members}
    (given : (ofRecord interface choice record session).result = .ok (some descriptor)) :
    ∃ draft collapsing, Draft.build draft collapsing = .ok descriptor := by
  rw [ofRecord, Action.bind_result_eq_ok_iff] at given
  obtain ⟨converted, convertedFrom, given⟩ := given
  cases converted with
  | error rejection =>
    rw [Action.bind_result_eq_ok_iff] at given
    obtain ⟨_, _, given⟩ := given
    cases given
  | ok found =>
    rw [Action.bind_result_eq_ok_iff] at given
    obtain ⟨_, _, given⟩ := given
    cases given
    exact Descriptor.exists_build_of_tryConvert convertedFrom

theorem exists_build_of_ofRecords {interface : String} {records : List Members}
    {descriptors : List Descriptor}
    (given : (ofRecords interface choice records session).result = .ok descriptors)
    (member : descriptor ∈ descriptors) :
    ∃ draft collapsing, Draft.build draft collapsing = .ok descriptor := by
  induction records generalizing session descriptors with
  | nil =>
    cases given
    cases member
  | cons record rest ih =>
    rw [ofRecords, Action.bind_result_eq_ok_iff] at given
    obtain ⟨first, firstGiven, given⟩ := given
    rw [Action.bind_result_eq_ok_iff] at given
    obtain ⟨others, othersGiven, given⟩ := given
    cases given
    rcases List.mem_append.mp member with here | there
    · cases first with
      | none => cases here
      | some found =>
        rw [Option.toList_some, List.mem_singleton] at here
        exact exists_build_of_ofRecord (here ▸ firstGiven)
    · exact ih othersGiven there

theorem exists_build_of_ofInterfaces {source : InterfaceSource}
    {taken : List (String × List Descriptor)} {interface : String × List Descriptor}
    (given : (ofInterfaces choice source session).result = .ok taken)
    (listed : interface ∈ taken) (member : descriptor ∈ interface.2) :
    ∃ draft collapsing, Draft.build draft collapsing = .ok descriptor := by
  induction source generalizing session taken with
  | nil =>
    cases given
    cases listed
  | cons first rest ih =>
    rw [ofInterfaces, Action.bind_result_eq_ok_iff] at given
    obtain ⟨descriptors, descriptorsGiven, given⟩ := given
    rw [Action.bind_result_eq_ok_iff] at given
    obtain ⟨others, othersGiven, given⟩ := given
    cases given
    rcases List.mem_cons.mp listed with rfl | there
    · exact exists_build_of_ofRecords descriptorsGiven member
    · exact ih othersGiven there

end Snapshot

/-! ### Encoded records -/

namespace Wire

theorem exists_build_of_decode {octets : List UInt8} {mode : Bool} {layout : Layout}
    (decoded : decode octets mode = .ok (descriptor, layout)) :
    ∃ draft, Draft.build draft false = .ok descriptor := by
  obtain ⟨_, _, _, -, -, -, read⟩ := exists_toDescriptor_of_decode decoded
  obtain ⟨draft, -, built⟩ := Contents.toDescriptor_eq_ok_iff.mp read
  exact ⟨draft, built⟩

/-- What is given in a session is what is decoded in the mode of the session. -/
theorem exists_decode_of_tryDecode {octets : List UInt8} {layout : Layout}
    (given : (tryDecode octets choice session).result = .ok (.ok (descriptor, layout))) :
    ∃ mode, (compatible choice session).result = .ok mode ∧
      decode octets mode = .ok (descriptor, layout) := by
  have bound := given
  rw [tryDecode, Action.bind_result_eq_ok_iff] at bound
  obtain ⟨mode, chosen, -⟩ := bound
  refine ⟨mode, chosen, ?_⟩
  rw [tryDecode_result chosen] at given
  cases decoded : decode octets mode with
  | ok result =>
    rw [decoded] at given
    cases given
    rfl
  | error error =>
    rw [decoded] at given
    simp only [Session.afterLog] at given
    split at given <;> cases given

end Wire

/-! ### Every way -/

namespace Descriptor.Obtained

/-- Every way to a descriptor builds a draft. -/
theorem exists_build (obtained : descriptor.Obtained) :
    ∃ draft collapsing, Draft.build draft collapsing = .ok descriptor := by
  cases obtained with
  | tryCreate given =>
    obtain ⟨collapsing, built⟩ := Draft.exists_build_of_tryCreate given
    exact ⟨_, collapsing, built⟩
  | create given =>
    obtain ⟨collapsing, built⟩ :=
      Draft.exists_build_of_tryCreate (Action.orFail_result_eq_ok_iff.mp given)
    exact ⟨_, collapsing, built⟩
  | tryParse given =>
    obtain ⟨collapsing, built⟩ := Draft.exists_build_of_tryCreate given
    exact ⟨_, collapsing, built⟩
  | parse given =>
    obtain ⟨collapsing, built⟩ :=
      Draft.exists_build_of_tryCreate (Action.orFail_result_eq_ok_iff.mp given)
    exact ⟨_, collapsing, built⟩
  | tryConvert given => exact exists_build_of_tryConvert given
  | convert given => exact exists_build_of_tryConvert (Action.orFail_result_eq_ok_iff.mp given)
  | snapshot given listed member =>
    rw [Snapshot.take, Action.bind_result_eq_ok_iff] at given
    obtain ⟨taken, takenFrom, given⟩ := given
    rw [Action.bind_result_eq_ok_iff] at given
    obtain ⟨_, _, given⟩ := given
    cases given
    exact Snapshot.exists_build_of_ofInterfaces takenFrom listed member
  | tryDecode given =>
    obtain ⟨mode, -, decoded⟩ := exists_decode_of_tryDecode given
    obtain ⟨draft, built⟩ := exists_build_of_decode decoded
    exact ⟨draft, false, built⟩
  | decodeOrFail given =>
    obtain ⟨mode, -, decoded⟩ :=
      exists_decode_of_tryDecode (Action.orFail_result_eq_ok_iff.mp given)
    obtain ⟨draft, built⟩ := exists_build_of_decode decoded
    exact ⟨draft, false, built⟩

/-- Every descriptor that is obtained keeps the rules. -/
theorem wellFormed (obtained : descriptor.Obtained) : descriptor.WellFormed := by
  obtain ⟨draft, collapsing, built⟩ := obtained.exists_build
  exact wellFormed_of_build built

end Descriptor.Obtained

end InterfaceAddress
