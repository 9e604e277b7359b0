import InterfaceAddress.Proofs.Log.Notice
import InterfaceAddress.Proofs.Session.Attempt
import Mathlib

/-! # What attempts tell the log

An attempt tells the log that its draft is rejected, and then that a record is
refused or not decoded. About a value it tells nothing. With a configuration that
is kept and a wall clock that shows a date, these notices are all that it tells
(`Attempt.tells`).
-/

namespace InterfaceAddress

open Wire

variable {session : Session} {config : Config} {choice : Option Bool}

/-! ### Notices -/

/-- What is told about a draft: its rejection, if it is rejected. -/
def Draft.notices (draft : Draft) (collapsing : Bool) : List Log.Notice :=
  match draft.build collapsing with
  | .ok _ => []
  | .error rejection => [.rejected draft rejection]

namespace Wire

/-- What is told about the fields of a record. -/
def fieldNotices (octets : List UInt8) (mode : Bool) : List Log.Notice :=
  match readDraft octets mode with
  | .ok (_, draft) => draft.notices false
  | .error _ => []

/-- What is told about a record: the rejection of its fields, and then that it is not decoded. -/
def notices (octets : List UInt8) (mode : Bool) : List Log.Notice :=
  fieldNotices octets mode ++
    match decode octets mode with
    | .ok _ => []
    | .error error => [.notDecoded error octets.length mode]

end Wire

/-- What an attempt tells the log under a configuration. -/
def Attempt.notices (config : Config) : Attempt → List Log.Notice
  | create draft choice => draft.notices (choice.getD config.address.collapseMapped)
  | parse text state choice =>
    (Draft.ofText text state).notices (choice.getD config.address.collapseMapped)
  | convert record state choice =>
    match InterfaceRecord.ofValue? record with
    | some accepted => (accepted.toDraft state).notices (choice.getD config.address.collapseMapped)
    | none => []
  | encode descriptor layout =>
    match descriptor.encode layout with
    | .ok _ => []
    | .error error => [.notEncoded error]
  | decode octets choice => Wire.notices octets (choice.getD config.codec.legacyCompatible)

/-! ### What is told about values and rejections -/

namespace Draft

variable {draft : Draft} {collapsing : Bool}

theorem notices_of_ok {descriptor : Descriptor} (built : draft.build collapsing = .ok descriptor) :
    draft.notices collapsing = [] := by
  rw [notices, built]

theorem notices_of_error {rejection : Rejection}
    (rejected : draft.build collapsing = .error rejection) :
    draft.notices collapsing = [.rejected draft rejection] := by
  rw [notices, rejected]

end Draft

theorem Wire.notices_of_ok {octets : List UInt8} {mode : Bool} {product : Descriptor × Layout}
    (decoded : decode octets mode = .ok product) : notices octets mode = [] := by
  unfold notices fieldNotices
  cases read : readDraft octets mode with
  | error error => cases decoded.symm.trans (decode_of_readDraft_error read)
  | ok contents =>
    obtain ⟨layout, draft⟩ := contents
    cases built : draft.build false with
    | error rejection => cases decoded.symm.trans (decode_of_rejected read built)
    | ok descriptor =>
      simp only [decoded, Draft.notices_of_ok built]
      rfl

/-- Nothing is told about a value. -/
theorem Attempt.notices_of_ok {attempt : Attempt} {product : attempt.Product}
    (gave : attempt.outcome config = .ok product) : attempt.notices config = [] := by
  cases attempt with
  | create draft choice => exact Draft.notices_of_ok gave
  | parse text state choice => exact Draft.notices_of_ok gave
  | convert record state choice =>
    simp only [outcome, notices] at gave ⊢
    cases read : InterfaceRecord.ofValue? record with
    | none => rfl
    | some accepted =>
      rw [read] at gave
      exact Draft.notices_of_ok gave
  | encode descriptor layout =>
    simp only [outcome, notices] at gave ⊢
    rw [gave]
  | decode octets choice => exact Wire.notices_of_ok gave

/-! ### Attempts -/

section Dated

variable (cached : session.config = some config) (dated : Log.IsDatable session.wallTime)
include cached dated

theorem Draft.tryCreate_tells_of_collapsing {draft : Draft} {collapsing : Bool}
    (chosen : (draft.collapsing choice).Tells session config collapsing []) :
    (draft.tryCreate choice).Tells session config (draft.build collapsing)
      (draft.notices collapsing) := by
  rw [notices]
  apply chosen.bind
  cases draft.build collapsing with
  | ok descriptor => exact .pure _
  | error rejection =>
    exact (Action.Tells.post cached dated (.rejected draft rejection)).bind_silent (.pure _)

theorem Draft.tryCreate_tells (draft : Draft) (choice : Option Bool) :
    (draft.tryCreate choice).Tells session config
      (draft.build (choice.getD config.address.collapseMapped))
      (draft.notices (choice.getD config.address.collapseMapped)) := by
  obtain ⟨collapsing, asked, chosen, loads, same⟩ :=
    collapsing_run_of_configuration (Session.configuration_of_config cached) draft choice
  rw [loads.eq_of_config cached] at chosen
  rw [notices, ← same]
  exact tryCreate_tells_of_collapsing cached dated chosen

theorem Descriptor.tryConvert_tells (record : Value) (state : DraftState) (choice : Option Bool) :
    (tryConvert record state choice).Tells session config
      ((Attempt.convert record state choice).outcome config)
      ((Attempt.convert record state choice).notices config) := by
  simp only [Attempt.outcome, Attempt.notices, tryConvert]
  cases InterfaceRecord.ofValue? record with
  | none => exact .pure _
  | some accepted => exact Draft.tryCreate_tells cached dated _ choice

theorem Descriptor.tryEncode_tells (descriptor : Descriptor) (layout : Layout) :
    (descriptor.tryEncode layout).Tells session config
      ((Attempt.encode descriptor layout).outcome config)
      ((Attempt.encode descriptor layout).notices config) := by
  simp only [Attempt.outcome, Attempt.notices, tryEncode]
  cases descriptor.encode layout with
  | ok octets => exact .pure _
  | error error =>
    exact (Action.Tells.post cached dated (.notEncoded error)).bind_silent (.pure _)

namespace Wire

omit dated in
/-- The mode is chosen in silence. -/
theorem compatible_tells (choice : Option Bool) : (compatible choice).Tells session config
    (choice.getD config.codec.legacyCompatible) [] := by
  cases choice with
  | some mode => exact .pure mode
  | none =>
    have asked := Session.settings_run_of_ok (Session.configuration_of_config cached)
    rw [Session.loaded_of_config cached] at asked
    exact Action.bind_run_of_ok asked

theorem decodeFields_tells (octets : List UInt8) (mode : Bool) :
    (decodeFields octets mode).Tells session config (decode octets mode)
      (fieldNotices octets mode) := by
  unfold fieldNotices decodeFields
  cases read : readDraft octets mode with
  | error error =>
    rw [decode_of_readDraft_error read]
    exact .pure _
  | ok contents =>
    obtain ⟨layout, draft⟩ := contents
    have created := Draft.tryCreate_tells_of_collapsing cached dated
      (collapsing_run_of_readDraft read session)
    cases built : draft.build false with
    | ok descriptor =>
      rw [decode_of_built read built]
      rw [built] at created
      exact created.bind_silent (.pure _)
    | error rejection =>
      rw [decode_of_rejected read built]
      rw [built] at created
      exact created.bind_silent (.pure _)

theorem tryDecode_tells (octets : List UInt8) (choice : Option Bool) :
    (tryDecode octets choice).Tells session config
      ((Attempt.decode octets choice).outcome config)
      ((Attempt.decode octets choice).notices config) := by
  simp only [Attempt.outcome, Attempt.notices, notices, tryDecode]
  apply (compatible_tells cached choice).bind
  apply (decodeFields_tells cached dated octets _).bind
  cases decode octets (choice.getD config.codec.legacyCompatible) with
  | ok product => exact .pure _
  | error error =>
    exact (Action.Tells.post cached dated (.notDecoded error octets.length _)).bind_silent (.pure _)

end Wire

/-- With a configuration and a date, an attempt gives what the configuration says and tells its
notices. -/
theorem Attempt.tells (attempt : Attempt) :
    attempt.action.Tells session config (attempt.outcome config) (attempt.notices config) := by
  cases attempt with
  | create draft choice => exact draft.tryCreate_tells cached dated choice
  | parse text state choice => exact Draft.tryCreate_tells cached dated _ choice
  | convert record state choice => exact Descriptor.tryConvert_tells cached dated record state choice
  | encode descriptor layout => exact descriptor.tryEncode_tells cached dated layout
  | decode octets choice => exact Wire.tryDecode_tells cached dated octets choice

end Dated

end InterfaceAddress
