import InterfaceAddress.Proofs.Session.Telling
import InterfaceAddress.Proofs.Session.Threshold
import Mathlib

/-! # What is written about a rejection

A draft that is rejected is told to the log of addresses with the reason of the
rejection, whichever way it came about. A record of the operating system without
an address is turned away before there is a draft, and then nothing is written
(`Attempt.lines_of_rejection`).
-/

namespace InterfaceAddress

open Wire

variable {session : Session} {config : Config} {choice : Option Bool}

/-! ### Rejections -/

/-- A value behind an entry that is let through shows that the entry could be dated. -/
theorem Session.isDatable_of_afterLog {level : Log.Level} {value given : α}
    (found : session.configuration = .ok config) (admitted : config.logging.admits level = true)
    (gave : session.afterLog level value = .ok given) : Log.IsDatable session.wallTime := by
  by_contra undated
  rw [afterLog_of_configuration found, if_pos ⟨admitted, undated⟩] at gave
  cases gave

theorem AddressSource.resolve_ne_recordWithoutAddress (source : AddressSource) (collapsing : Bool) :
    source.resolve collapsing ≠ .error .recordWithoutAddress := by
  intro resolved
  cases source with
  | missing => cases resolved
  | address given => cases resolved
  | text given =>
    simp only [resolve] at resolved
    split at resolved
    · cases resolved
    · split at resolved <;> cases resolved

namespace Draft

variable {draft : Draft}

theorem ne_recordWithoutAddress_of_build {collapsing : Bool} {rejection : Rejection}
    (rejected : draft.build collapsing = .error rejection) : rejection ≠ .recordWithoutAddress := by
  rintro rfl
  cases resolved : draft.address.resolve collapsing with
  | error rejection =>
    rw [build_of_unresolved resolved] at rejected
    cases rejected
    exact draft.address.resolve_ne_recordWithoutAddress collapsing resolved
  | ok address =>
    by_cases fits : ∃ number, draft.prefixLength = some number ∧ address.FitsPrefix number
    · obtain ⟨number, given, fits⟩ := fits
      rw [build_of_fitsPrefix resolved given fits] at rejected
      split at rejected
      · cases rejected
      · split at rejected <;> cases rejected
    · rw [build_of_not_fitsPrefix resolved fun number given fit =>
        fits ⟨number, given, fit⟩] at rejected
      cases rejected

theorem filter_notices_of_error {collapsing : Bool} {rejection : Rejection}
    (rejected : draft.build collapsing = .error rejection) :
    (draft.notices collapsing).filter (fun notice => notice.level = .debug) =
      [.rejected draft rejection] := by
  rw [notices_of_error rejected]
  rfl

/-- A rejection that is given although it is let through shows that entries can be dated. -/
theorem isDatable_of_tryCreate {rejection : Rejection} (found : session.configuration = .ok config)
    (admitted : config.logging.admits .debug = true)
    (rejected : (draft.tryCreate choice session).result = .ok (.error rejection)) :
    Log.IsDatable session.wallTime := by
  rw [tryCreate_result found] at rejected
  cases built : draft.build (choice.getD config.address.collapseMapped) with
  | ok descriptor =>
    rw [built] at rejected
    cases rejected
  | error given =>
    rw [built] at rejected
    exact Session.isDatable_of_afterLog found admitted rejected

end Draft

namespace Wire

variable {octets : List UInt8} {mode : Bool}

theorem cause?_of_lifetimeOfWord {field : LifetimeField} {word : Int} {error : DecodeError}
    (failed : lifetimeOfWord field word = .error error) : error.cause? = none := by
  unfold lifetimeOfWord at failed
  split_ifs at failed
  cases failed
  rfl

theorem Contents.cause?_of_toDraft {contents : Contents} {error : DecodeError}
    (failed : contents.toDraft = .error error) : error.cause? = none := by
  unfold toDraft at failed
  cases deprecation : lifetimeOfWord .deprecation contents.deprecation with
  | error other =>
    simp only [deprecation, bind, Except.bind] at failed
    cases failed
    exact cause?_of_lifetimeOfWord deprecation
  | ok first =>
    cases expiration : lifetimeOfWord .expiration contents.expiration with
    | error other =>
      simp only [deprecation, expiration, bind, Except.bind] at failed
      cases failed
      exact cause?_of_lifetimeOfWord expiration
    | ok second =>
      simp only [deprecation, expiration, bind, Except.bind] at failed
      cases failed

/-- What is wrong with a record before there is a draft is no rejection. -/
theorem cause?_of_readDraft {error : DecodeError} (failed : readDraft octets mode = .error error) :
    error.cause? = none := by
  cases octets with
  | nil =>
    cases failed
    rfl
  | cons first rest =>
    by_cases known : ∃ family : Family, first.toNat = family.octetCount
    · obtain ⟨family, counted⟩ := known
      cases resolved : resolveLayout (first :: rest).length family.octetCount mode with
      | error other =>
        rw [readDraft_of_unresolved counted resolved] at failed
        cases failed
        simp only [resolveLayout] at resolved
        split_ifs at resolved <;> cases resolved <;> rfl
      | ok layout =>
        rw [readDraft_of_resolveLayout counted resolved] at failed
        cases drafted :
            (Contents.ofRecord layout family.octetCount (first :: rest)).toDraft with
        | ok draft =>
          rw [drafted] at failed
          cases failed
        | error other =>
          rw [drafted] at failed
          cases failed
          exact Contents.cause?_of_toDraft drafted
    · rw [readDraft_of_not_octetCount (not_exists.mp known)] at failed
      cases failed
      rfl

/-- The rejection from which an error stems is that of the draft in the record. -/
theorem exists_readDraft_of_cause {error : DecodeError} {rejection : Rejection}
    (failed : decode octets mode = .error error) (cause : error.cause? = some rejection) :
    ∃ layout draft, readDraft octets mode = .ok (layout, draft) ∧
      draft.build false = .error rejection := by
  cases read : readDraft octets mode with
  | error other =>
    cases failed.symm.trans (decode_of_readDraft_error read)
    rw [cause?_of_readDraft read] at cause
    cases cause
  | ok contents =>
    obtain ⟨layout, draft⟩ := contents
    refine ⟨layout, draft, rfl, ?_⟩
    cases built : draft.build false with
    | ok descriptor => cases failed.symm.trans (decode_of_built read built)
    | error given =>
      cases failed.symm.trans (decode_of_rejected read built)
      cases cause
      rfl

end Wire

/-! ### Attempts -/

namespace Attempt

variable {attempt : Attempt}

/-- The draft that an attempt comes to, if it comes to one. -/
def draft? (config : Config) : Attempt → Option Draft
  | create draft _ => some draft
  | parse text state _ => some (.ofText text state)
  | convert record state _ => (InterfaceRecord.ofValue? record).map (·.toDraft state)
  | encode .. => none
  | decode octets choice =>
    (readDraft octets (choice.getD config.codec.legacyCompatible)).toOption.map Prod.snd

/-- The rejection that an error is or stems from. -/
def rejection? : (attempt : Attempt) → attempt.Error → Option Rejection
  | create .. | parse .. | convert .. => fun rejection : Rejection => some rejection
  | encode .. => fun _ => none
  | decode .. => DecodeError.cause?

/-- Of a rejection, the log of addresses is told first, and nothing more is told at its level. -/
theorem notices_of_rejection {error : attempt.Error} {rejection : Rejection}
    (failed : attempt.outcome config = .error error)
    (cause : attempt.rejection? error = some rejection) :
    if rejection = .recordWithoutAddress then attempt.notices config = []
    else ∃ draft, attempt.draft? config = some draft ∧
      (attempt.notices config).filter (fun notice => notice.level = .debug) =
        [.rejected draft rejection] := by
  cases attempt with
  | create draft choice =>
    cases cause
    rw [if_neg (Draft.ne_recordWithoutAddress_of_build failed)]
    exact ⟨draft, rfl, Draft.filter_notices_of_error failed⟩
  | parse text state choice =>
    cases cause
    rw [if_neg (Draft.ne_recordWithoutAddress_of_build failed)]
    exact ⟨_, rfl, Draft.filter_notices_of_error failed⟩
  | convert record state choice =>
    cases cause
    simp only [outcome, notices, draft?] at failed ⊢
    cases read : InterfaceRecord.ofValue? record with
    | none =>
      rw [read] at failed
      cases failed
      rw [if_pos rfl]
    | some accepted =>
      rw [read] at failed
      rw [if_neg (Draft.ne_recordWithoutAddress_of_build failed)]
      exact ⟨_, rfl, Draft.filter_notices_of_error failed⟩
  | encode descriptor layout => cases cause
  | decode octets choice =>
    obtain ⟨layout, draft, read, rejected⟩ := Wire.exists_readDraft_of_cause failed cause
    rw [if_neg (Draft.ne_recordWithoutAddress_of_build rejected)]
    refine ⟨draft, ?_, ?_⟩
    · simp only [draft?, read]
      rfl
    · have decoded : Wire.decode octets (choice.getD config.codec.legacyCompatible) =
          .error error := failed
      simp only [notices, Wire.notices, fieldNotices, read, decoded,
        Draft.notices_of_error rejected]
      rfl

/-- A rejection of a draft that is given although it is let through shows that entries can be
dated. -/
theorem isDatable_of_rejection (found : session.configuration = .ok config)
    (admitted : config.logging.admits .debug = true) {error : attempt.Error} {rejection : Rejection}
    (failed : (attempt.action session).result = .ok (.error error))
    (cause : attempt.rejection? error = some rejection)
    (drafted : rejection ≠ .recordWithoutAddress) : Log.IsDatable session.wallTime := by
  cases attempt with
  | create draft choice => exact Draft.isDatable_of_tryCreate found admitted failed
  | parse text state choice => exact Draft.isDatable_of_tryCreate found admitted failed
  | convert record state choice =>
    simp only [action, Descriptor.tryConvert] at failed
    cases read : InterfaceRecord.ofValue? record with
    | none =>
      rw [read] at failed
      cases failed
      cases cause
      exact absurd rfl drafted
    | some accepted =>
      rw [read] at failed
      exact Draft.isDatable_of_tryCreate found admitted failed
  | encode descriptor layout => cases cause
  | decode octets choice =>
    have decoded : (tryDecode octets choice session).result = _ :=
      tryDecode_result (compatible_result found choice)
    cases outcome : Wire.decode octets (choice.getD config.codec.legacyCompatible) with
    | ok product =>
      rw [outcome] at decoded
      cases decoded.symm.trans failed
    | error other =>
      rw [outcome] at decoded
      have admittedWarning : config.logging.admits .warn = true :=
        LoggingConfig.admits_of_reaches rfl admitted
      exact Session.isDatable_of_afterLog found admittedWarning (decoded.symm.trans failed)

/-- **Every rejection is written once, except that of a record without an address.** If entries for
debugging are let through, a rejection that an attempt gives, or that is the cause of the error it
gives, leaves one line for debugging: that of the notice with the draft of the attempt and this
rejection. A record without an address leaves no line, and neither does what is given without an
error. -/
theorem lines_of_rejection (attempt : Attempt) (session : Session) (config : Config)
    (cached : session.config = some config) (admitted : config.logging.admits .debug = true) :
    (∀ product, (attempt.action session).result = .ok (.ok product) →
      (attempt.action session).lines = []) ∧
    (∀ error rejection, (attempt.action session).result = .ok (.error error) →
      attempt.rejection? error = some rejection →
        if rejection = .recordWithoutAddress then (attempt.action session).lines = []
        else ∃ draft, attempt.draft? config = some draft ∧
          (attempt.action session).lines.filter (fun line => line.level = .debug) =
            [(Log.Notice.rejected draft rejection).line session config.logging]) := by
  have found := Session.configuration_of_config cached
  by_cases dated : Log.IsDatable session.wallTime
  · have tells := attempt.tells cached dated
    rw [tells.result_eq, tells.lines_eq]
    constructor
    · intro product gave
      rw [notices_of_ok (Except.ok.inj gave), Log.Notice.lines_nil]
    · intro error rejection failed cause
      have told := notices_of_rejection (Except.ok.inj failed) cause
      split at told
      case isTrue undrafted => rw [if_pos undrafted, told, Log.Notice.lines_nil]
      case isFalse drafted =>
        obtain ⟨draft, isDraft, alone⟩ := told
        rw [if_neg drafted]
        refine ⟨draft, isDraft, ?_⟩
        rw [Log.Notice.filter_level_lines, alone, Log.Notice.lines_cons_of_admits admitted,
          Log.Notice.lines_nil]
  · have silent := attempt.isRoutine.lines_eq_nil cached (.inr dated)
    refine ⟨fun _ _ => silent, fun error rejection failed cause => ?_⟩
    split
    case isTrue => exact silent
    case isFalse drafted =>
      exact absurd (isDatable_of_rejection found admitted failed cause drafted) dated

/-- A record of the group address 224.0.0.1 is rejected with a line for debugging. An interface
record that is null is rejected without. -/
theorem lines_of_rejection_group :
    let config : Config := { Config.forDeployment .test with logging := ⟨.debug, false, true⟩ }
    let session : Session := ⟨[], some config, 1700000000123, 0, .capture⟩
    let octets : List UInt8 := [4, 224, 0, 0, 1, 8, 0, 0, 0, 0, 0, 0, 0, 14]
    let decode : Attempt := .decode octets none
    let convert : Attempt := .convert .null .empty none
    let rejection : Rejection := .multicast ⟨[224, 0, 0, 1], by decide⟩
    (decode.action session).result = .ok (.error (DecodeError.invalid rejection)) ∧
    (∃ draft, decode.draft? config = some draft ∧
      (decode.action session).lines.filter (fun line => line.level = .debug) =
        [(Log.Notice.rejected draft rejection).line session config.logging]) ∧
    (convert.action session).result = .ok (.error Rejection.recordWithoutAddress) ∧
    (convert.action session).lines = [] := by
  intro config session octets decode convert rejection
  have failed : (tryDecode octets none session).result =
      .ok (.error (DecodeError.invalid rejection)) := by
    decide +kernel
  have decoding := lines_of_rejection decode session config rfl rfl
  have converting := lines_of_rejection convert session config rfl rfl
  exact ⟨failed, decoding.2 _ rejection failed rfl, rfl, converting.2 _ _ rfl rfl⟩

/-- Not every rejection is written: that of a record without an address is lost. -/
theorem not_forall_exists_debug_line : ¬ ∀ (attempt : Attempt) (session : Session)
    (config : Config), session.config = some config → config.logging.admits .debug = true →
      ∀ error rejection, (attempt.action session).result = .ok (.error error) →
        attempt.rejection? error = some rejection →
          ∃ draft, (attempt.action session).lines.filter (fun line => line.level = .debug) =
            [(Log.Notice.rejected draft rejection).line session config.logging] := by
  intro always
  let config : Config := { Config.forDeployment .test with logging := ⟨.debug, false, true⟩ }
  let session : Session := ⟨[], some config, 1700000000123, 0, .capture⟩
  obtain ⟨draft, written⟩ := always (.convert .null .empty none) session config rfl rfl
    Rejection.recordWithoutAddress .recordWithoutAddress rfl rfl
  cases written

end Attempt

end InterfaceAddress
