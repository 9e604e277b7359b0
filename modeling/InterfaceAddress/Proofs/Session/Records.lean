import InterfaceAddress.Proofs.Session.Run
import InterfaceAddress.Proofs.Wire.Decode
import InterfaceAddress.Session.Records
import Mathlib

/-! # Building, encoding and decoding in a session

What a session adds to building, encoding and decoding is a log entry for every
error. A value is given in every session; an error is given once its entry is
written (`Descriptor.tryEncode_result`, `Wire.tryDecode_result`).
-/

namespace InterfaceAddress

open Wire

/-! ### Building -/

namespace Draft

variable {draft : Draft} {choice : Option Bool} {collapsing : Bool} {session asked : Session}

theorem tryCreate_run_of_ok {descriptor : Descriptor}
    (chosen : draft.collapsing choice session = ⟨.ok collapsing, asked, []⟩)
    (built : draft.build collapsing = .ok descriptor) :
    draft.tryCreate choice session = ⟨.ok (.ok descriptor), asked, []⟩ := by
  rw [tryCreate, Action.bind_run_of_ok chosen, Outcome.after_nil, built]
  rfl

theorem tryCreate_run_of_error {rejection : Rejection}
    (chosen : draft.collapsing choice session = ⟨.ok collapsing, asked, []⟩)
    (rejected : draft.build collapsing = .error rejection) :
    draft.tryCreate choice session =
      ⟨asked.afterLog .debug (.error rejection), asked.loaded,
        Log.Logger.address.linesIn asked .debug "Rejected address descriptor"
          (draft.rejectionContext rejection)⟩ := by
  rw [tryCreate, Action.bind_run_of_ok chosen, Outcome.after_nil, rejected]
  exact Log.Logger.address.write_bind_pure_run ..

/-- What is given is what is built. -/
theorem exists_build_of_tryCreate {descriptor : Descriptor}
    (created : (draft.tryCreate choice session).result = .ok (.ok descriptor)) :
    ∃ collapsing, draft.build collapsing = .ok descriptor := by
  rw [tryCreate, Action.bind_result_eq_ok_iff] at created
  obtain ⟨collapsing, -, created⟩ := created
  refine ⟨collapsing, ?_⟩
  cases built : draft.build collapsing with
  | ok found =>
    rw [built] at created
    cases created
    rfl
  | error rejection =>
    rw [built] at created
    rw [Action.bind_result_eq_ok_iff] at created
    obtain ⟨_, _, given⟩ := created
    cases given

end Draft

/-! ### Encoding -/

theorem Descriptor.tryEncode_result (descriptor : Descriptor) (layout : Layout)
    (session : Session) : (descriptor.tryEncode layout session).result =
      match descriptor.encode layout with
      | .ok octets => .ok (.ok octets)
      | .error error => session.afterLog .warn (.error error) := by
  rw [tryEncode]
  cases descriptor.encode layout with
  | ok octets => rfl
  | error error =>
    exact congrArg Outcome.result (Log.Logger.codec.write_bind_pure_run ..)

/-- A record is given in every session or in none. -/
theorem Descriptor.tryEncode_result_eq_ok_iff {descriptor : Descriptor} {layout : Layout}
    {session : Session} {octets : List UInt8} :
    (descriptor.tryEncode layout session).result = .ok (.ok octets) ↔
      descriptor.encode layout = .ok octets := by
  rw [tryEncode_result]
  cases descriptor.encode layout with
  | ok found => simp
  | error error =>
    simp only [Session.afterLog]
    cases session.logFailure? .warn <;> simp

/-! ### Decoding -/

namespace Wire

variable {octets : List UInt8} {mode : Bool} {choice : Option Bool} {session : Session}

/-- The address of a record is never a text, so the configuration is not asked about it. -/
theorem collapsing_run_of_readDraft {layout : Layout} {draft : Draft}
    (read : readDraft octets mode = .ok (layout, draft)) (session : Session) :
    draft.collapsing none session = ⟨.ok false, session, []⟩ := by
  obtain ⟨contents, drafted⟩ := exists_toDraft_of_readDraft read
  obtain ⟨first, second, -, -, rfl⟩ := Contents.toDraft_eq_ok_iff.mp drafted
  simp only [Draft.collapsing]
  split <;> simp_all

section Fields

variable {layout : Layout} {draft : Draft} (read : readDraft octets mode = .ok (layout, draft))
include read

theorem decodeFields_run_of_built (session : Session) {descriptor : Descriptor}
    (built : draft.build false = .ok descriptor) :
    decodeFields octets mode session = ⟨.ok (.ok (descriptor, layout)), session, []⟩ := by
  have created := Draft.tryCreate_run_of_ok (collapsing_run_of_readDraft read session) built
  rw [decodeFields, read]
  exact Action.bind_run_of_ok created

/-- A rejection of the fields is written as that of any draft. -/
theorem decodeFields_run_of_rejected (session : Session) {rejection : Rejection}
    (rejected : draft.build false = .error rejection) :
    decodeFields octets mode session =
      ⟨session.afterLog .debug (.error (.invalid rejection)), session.loaded,
        Log.Logger.address.linesIn session .debug "Rejected address descriptor"
          (draft.rejectionContext rejection)⟩ := by
  have created := Draft.tryCreate_run_of_error (collapsing_run_of_readDraft read session) rejected
  rw [decodeFields, read]
  unfold Session.afterLog at created ⊢
  cases fails : session.logFailure? .debug with
  | some failure =>
    rw [fails] at created
    exact Action.bind_run_of_error created
  | none =>
    rw [fails] at created
    exact (Action.bind_run_of_ok created).trans (by simp [Outcome.after])

end Fields

/-- Whichever way the mode is chosen, it is chosen without a line and without a change of what can
be logged. -/
theorem compatible_run_of_result (chosen : (compatible choice session).result = .ok mode) :
    ∃ asked, compatible choice session = ⟨.ok mode, asked, []⟩ ∧
      ∀ level, asked.logFailure? level = session.logFailure? level := by
  cases choice with
  | some given =>
    cases chosen
    exact ⟨session, rfl, fun _ => rfl⟩
  | none =>
    refine ⟨session.loaded, ?_, fun level => Session.logFailure?_loaded session level⟩
    rw [compatible] at chosen ⊢
    cases found : session.configuration with
    | error error =>
      rw [Action.bind_run_of_error (Session.settings_run_of_error found)] at chosen
      cases chosen
    | ok config =>
      rw [Action.bind_run_of_ok (Session.settings_run_of_ok found)] at chosen ⊢
      cases chosen
      rfl

section Result

variable {asked next : Session} {lines : List Log.Line}
  (chosen : compatible choice session = ⟨.ok mode, asked, []⟩)
include chosen

theorem tryDecode_result_of_decoded {value : Descriptor × Layout}
    (fields : decodeFields octets mode asked = ⟨.ok (.ok value), next, lines⟩) :
    (tryDecode octets choice session).result = .ok (.ok value) := by
  rw [tryDecode, Action.bind_run_of_ok chosen, Outcome.after_nil]
  exact congrArg Outcome.result (Action.bind_run_of_ok fields)

theorem tryDecode_result_of_error {error : DecodeError}
    (fields : decodeFields octets mode asked = ⟨.ok (.error error), next, lines⟩) :
    (tryDecode octets choice session).result = next.afterLog .warn (.error error) := by
  rw [tryDecode, Action.bind_run_of_ok chosen, Outcome.after_nil]
  refine (congrArg Outcome.result (Action.bind_run_of_ok fields)).trans ?_
  exact congrArg Outcome.result (Log.Logger.codec.write_bind_pure_run ..)

theorem tryDecode_result_of_failure {failure : Failure}
    (fields : decodeFields octets mode asked = ⟨.error failure, next, lines⟩) :
    (tryDecode octets choice session).result = .error failure := by
  rw [tryDecode, Action.bind_run_of_ok chosen, Outcome.after_nil]
  exact congrArg Outcome.result (Action.bind_run_of_error fields)

/-- A rejection is written twice, first as that of a draft. Where the first entry cannot be written,
the second one could not be either. -/
theorem tryDecode_result_of_rejected {layout : Layout} {draft : Draft} {rejection : Rejection}
    (read : readDraft octets mode = .ok (layout, draft))
    (rejected : draft.build false = .error rejection) :
    (tryDecode octets choice session).result =
      asked.afterLog .warn (.error (.invalid rejection)) := by
  have fields := decodeFields_run_of_rejected read asked rejected
  cases fails : asked.logFailure? .debug with
  | some failure =>
    have reaches : Log.Level.warn.reaches .debug = true := rfl
    have alsoFails := Session.logFailure?_of_reaches reaches fails
    rw [Session.afterLog, fails] at fields
    rw [tryDecode_result_of_failure chosen fields, Session.afterLog, alsoFails]
  | none =>
    rw [Session.afterLog, fails] at fields
    rw [tryDecode_result_of_error chosen fields, Session.afterLog_loaded]

end Result

/-- A record is decoded alike in every session; an error is given once it is written. -/
theorem tryDecode_result (chosen : (compatible choice session).result = .ok mode) :
    (tryDecode octets choice session).result =
      match decode octets mode with
      | .ok result => .ok (.ok result)
      | .error error => session.afterLog .warn (.error error) := by
  obtain ⟨asked, ran, unchanged⟩ := compatible_run_of_result chosen
  cases read : readDraft octets mode with
  | error error =>
    have fields : decodeFields octets mode asked = ⟨.ok (.error error), asked, []⟩ := by
      rw [decodeFields, read]
      rfl
    rw [decode_of_readDraft_error read, tryDecode_result_of_error ran fields]
    exact Session.afterLog_congr (unchanged .warn)
  | ok found =>
    obtain ⟨layout, draft⟩ := found
    cases built : draft.build false with
    | ok descriptor =>
      rw [decode_of_built read built]
      exact tryDecode_result_of_decoded ran (decodeFields_run_of_built read asked built)
    | error rejection =>
      rw [decode_of_rejected read built, tryDecode_result_of_rejected ran read built]
      exact Session.afterLog_congr (unchanged .warn)

end Wire

end InterfaceAddress
