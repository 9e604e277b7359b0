import InterfaceAddress.Proofs.Session.Command
import InterfaceAddress.Proofs.Session.Records
import Mathlib

/-! # What an attempt gives

In a session with a configuration and a date, an attempt gives what the
configuration says, a value or an error, whatever is logged about it
(`Attempt.outcome`, `Attempt.result_of_isDatable`). Without a configuration, it fails
exactly if it asks for one (`Attempt.result_of_unconfigured`). The two cases together
are `Attempt.result_characterization`.
-/

namespace InterfaceAddress

open Wire

variable {session : Session} {config : Config} {error : ConfigError} {choice : Option Bool}

/-! ### Entries about an error -/

namespace Session

theorem afterLog_of_configuration {level : Log.Level} (found : session.configuration = .ok config)
    (value : α) : session.afterLog level value =
      if config.logging.admits level ∧ ¬ Log.IsDatable session.wallTime then
        .error (.undated ⟨session.wallTime⟩)
      else .ok value := by
  simp only [afterLog, logFailure?, found]
  by_cases stopped : config.logging.admits level ∧ ¬ Log.IsDatable session.wallTime
  · rw [if_pos stopped, if_pos stopped]
  · rw [if_neg stopped, if_neg stopped]

theorem afterLog_of_unconfigured {level : Log.Level}
    (invalid : session.configuration = .error error) (value : α) :
    session.afterLog level value = .error (.config error) := by
  simp only [afterLog, logFailure?, invalid]

theorem Loads.afterLog_eq {asked : Session} (loads : session.Loads asked) (level : Log.Level)
    (value : α) : asked.afterLog level value = session.afterLog level value :=
  afterLog_congr (loads.logFailure?_eq level)

end Session

theorem Log.Logger.linesIn_of_loads {logger : Logger} {asked : Session}
    (loads : session.Loads asked) (level : Level) (message : String) (context : Members) :
    logger.linesIn asked level message context = logger.linesIn session level message context := by
  unfold linesIn
  rw [loads.configuration_eq, loads.wallTime_eq, loads.sink_eq]

/-! ### Drafts -/

namespace Draft

variable {draft : Draft}

/-- With a configuration the choice is made without a line, and what is built is what the caller or
else the configuration chooses. -/
theorem collapsing_run_of_configuration (found : session.configuration = .ok config)
    (draft : Draft) (choice : Option Bool) : ∃ collapsing asked,
      draft.collapsing choice session = ⟨.ok collapsing, asked, []⟩ ∧ session.Loads asked ∧
        draft.build collapsing = draft.build (choice.getD config.address.collapseMapped) := by
  obtain ⟨source, prefixLength, state⟩ := draft
  cases choice with
  | some choice => exact ⟨choice, session, rfl, .unchanged, rfl⟩
  | none =>
    cases source with
    -- an address that is not read from a text is never collapsed
    | missing => exact ⟨false, session, rfl, .unchanged, rfl⟩
    | address given => exact ⟨false, session, rfl, .unchanged, rfl⟩
    | text given =>
      have asked := Session.settings_run_of_ok found
      exact ⟨_, session.loaded, Action.bind_run_of_ok asked, .loaded, rfl⟩

section Created

variable (found : session.configuration = .ok config)
include found

theorem tryCreate_result (draft : Draft) (choice : Option Bool) :
    (draft.tryCreate choice session).result =
      match draft.build (choice.getD config.address.collapseMapped) with
      | .ok descriptor => .ok (.ok descriptor)
      | .error rejection => session.afterLog .debug (.error rejection) := by
  obtain ⟨collapsing, asked, chosen, loads, same⟩ :=
    collapsing_run_of_configuration found draft choice
  rw [← same]
  cases built : draft.build collapsing with
  | ok descriptor => rw [tryCreate_run_of_ok chosen built]
  | error rejection =>
    rw [tryCreate_run_of_error chosen built]
    exact loads.afterLog_eq ..

theorem tryCreate_result_of_isDatable (datable : Log.IsDatable session.wallTime) (draft : Draft)
    (choice : Option Bool) : (draft.tryCreate choice session).result =
      .ok (draft.build (choice.getD config.address.collapseMapped)) := by
  rw [tryCreate_result found]
  cases draft.build (choice.getD config.address.collapseMapped) with
  | ok descriptor => rfl
  | error rejection => exact Session.afterLog_of_isDatable found datable ..

end Created

/-- The configuration decides how an address in text is read where the caller does not. -/
def LeavesOpen (draft : Draft) (choice : Option Bool) : Prop :=
  (∃ text, draft.address = .text text) ∧ choice = none

/-- Building asks for the configuration to read an address, or to log a rejection. -/
def Consults (draft : Draft) (choice : Option Bool) : Prop :=
  draft.LeavesOpen choice ∨ ∃ rejection, draft.build (choice.getD false) = .error rejection

theorem collapsing_run_of_leavesOpen (invalid : session.configuration = .error error)
    (unsettled : draft.LeavesOpen choice) :
    draft.collapsing choice session = ⟨.error (.config error), session.loaded, []⟩ := by
  obtain ⟨⟨text, given⟩, rfl⟩ := unsettled
  simp only [collapsing, given]
  exact Action.bind_run_of_error (Session.settings_run_of_error invalid)

theorem collapsing_run_of_not_leavesOpen (settled : ¬ draft.LeavesOpen choice)
    (session : Session) :
    draft.collapsing choice session = ⟨.ok (choice.getD false), session, []⟩ := by
  obtain ⟨source, prefixLength, state⟩ := draft
  cases choice with
  | some choice => rfl
  | none =>
    cases source with
    | missing => rfl
    | address given => rfl
    | text given => exact absurd ⟨⟨given, rfl⟩, rfl⟩ settled

theorem tryCreate_result_of_unconfigured (invalid : session.configuration = .error error)
    (draft : Draft) (choice : Option Bool) :
    (draft.Consults choice ∧
      (draft.tryCreate choice session).result = .error (.config error)) ∨
    (¬ draft.Consults choice ∧ ∃ given, (draft.tryCreate choice session).result = .ok given) := by
  by_cases unsettled : draft.LeavesOpen choice
  · refine .inl ⟨.inl unsettled, ?_⟩
    rw [tryCreate, Action.bind_run_of_error (collapsing_run_of_leavesOpen invalid unsettled)]
  · have chosen := collapsing_run_of_not_leavesOpen unsettled session
    cases built : draft.build (choice.getD false) with
    | ok descriptor =>
      refine .inr ⟨?_, .ok descriptor, ?_⟩
      · rintro (asks | ⟨rejection, rejected⟩)
        · exact unsettled asks
        · cases built.symm.trans rejected
      · rw [tryCreate_run_of_ok chosen built]
    | error rejection =>
      refine .inl ⟨.inr ⟨rejection, built⟩, ?_⟩
      rw [tryCreate_run_of_error chosen built]
      exact Session.afterLog_of_unconfigured invalid _

end Draft

theorem Wire.compatible_result (found : session.configuration = .ok config)
    (choice : Option Bool) : (compatible choice session).result =
      .ok (choice.getD config.codec.legacyCompatible) := by
  cases choice with
  | some mode => rfl
  | none =>
    rw [compatible, Action.bind_run_of_ok (Session.settings_run_of_ok found)]
    rfl

/-! ### Attempts -/

namespace Attempt

/-- What an attempt gives under a configuration, whatever is logged. -/
def outcome (config : Config) : (attempt : Attempt) → Except attempt.Error attempt.Product
  | create draft choice => draft.build (choice.getD config.address.collapseMapped)
  | parse text state choice =>
    (Draft.ofText text state).build (choice.getD config.address.collapseMapped)
  | convert record state choice =>
    match InterfaceRecord.ofValue? record with
    | some record => (record.toDraft state).build (choice.getD config.address.collapseMapped)
    | none => .error .recordWithoutAddress
  | encode descriptor layout => descriptor.encode layout
  | decode octets choice => Wire.decode octets (choice.getD config.codec.legacyCompatible)

/-- An attempt asks for the configuration. -/
def Consults : Attempt → Prop
  | create draft choice => draft.Consults choice
  | parse text state choice => (Draft.ofText text state).Consults choice
  | convert record state choice =>
    ∃ accepted, InterfaceRecord.ofValue? record = some accepted ∧
      (accepted.toDraft state).Consults choice
  | encode descriptor layout => ∃ error, descriptor.encode layout = .error error
  | decode octets choice =>
    choice = none ∨ ∃ error, Wire.decode octets (choice.getD false) = .error error

/-- With a configuration and a date, an attempt gives what the configuration says. -/
theorem result_of_isDatable (found : session.configuration = .ok config)
    (datable : Log.IsDatable session.wallTime) (attempt : Attempt) :
    (attempt.action session).result = .ok (attempt.outcome config) := by
  cases attempt with
  | create draft choice => exact Draft.tryCreate_result_of_isDatable found datable draft choice
  | parse text state choice => exact Draft.tryCreate_result_of_isDatable found datable _ choice
  | convert record state choice =>
    simp only [action, outcome, Descriptor.tryConvert]
    cases InterfaceRecord.ofValue? record with
    | none => rfl
    | some accepted => exact Draft.tryCreate_result_of_isDatable found datable _ choice
  | encode descriptor layout =>
    refine (descriptor.tryEncode_result layout session).trans ?_
    simp only [outcome]
    cases descriptor.encode layout with
    | ok octets => rfl
    | error error => exact Session.afterLog_of_isDatable found datable ..
  | decode octets choice =>
    refine (tryDecode_result (compatible_result found choice)).trans ?_
    simp only [outcome]
    cases Wire.decode octets (choice.getD config.codec.legacyCompatible) with
    | ok product => rfl
    | error error => exact Session.afterLog_of_isDatable found datable ..

/-- Without a configuration, an attempt that asks for it fails, and any other succeeds or gives its
error in silence. -/
theorem result_of_unconfigured (invalid : session.configuration = .error error)
    (attempt : Attempt) :
    (attempt.Consults ∧ (attempt.action session).result = .error (.config error)) ∨
    (¬ attempt.Consults ∧ ∃ given, (attempt.action session).result = .ok given) := by
  cases attempt with
  | create draft choice => exact draft.tryCreate_result_of_unconfigured invalid choice
  | parse text state choice => exact Draft.tryCreate_result_of_unconfigured invalid _ choice
  | convert record state choice =>
    simp only [action, Consults, Descriptor.tryConvert]
    cases read : InterfaceRecord.ofValue? record with
    | none =>
      refine .inr ⟨?_, _, rfl⟩
      rintro ⟨_, accepted, _⟩
      cases accepted
    | some record =>
      simp only [Option.some.injEq, exists_eq_left']
      exact Draft.tryCreate_result_of_unconfigured invalid (record.toDraft state) choice
  | encode descriptor layout =>
    simp only [action, Consults]
    rw [descriptor.tryEncode_result layout session]
    cases encoded : descriptor.encode layout with
    | ok octets =>
      refine .inr ⟨?_, _, rfl⟩
      rintro ⟨_, refused⟩
      cases refused
    | error refusal =>
      exact .inl ⟨⟨refusal, rfl⟩, Session.afterLog_of_unconfigured invalid _⟩
  | decode octets choice =>
    simp only [action, Consults]
    cases choice with
    | none =>
      refine .inl ⟨.inl rfl, ?_⟩
      have failed : compatible none session = ⟨.error (.config error), session.loaded, []⟩ :=
        Action.bind_run_of_error (Session.settings_run_of_error invalid)
      rw [tryDecode]
      exact congrArg Outcome.result (Action.bind_run_of_error failed)
    | some mode =>
      have chosen : (compatible (some mode) session).result = .ok mode := rfl
      rw [tryDecode_result chosen]
      simp only [reduceCtorEq, false_or, Option.getD_some]
      cases decoded : Wire.decode octets mode with
      | ok product =>
        refine .inr ⟨?_, _, rfl⟩
        rintro ⟨_, refused⟩
        cases refused
      | error refusal =>
        exact .inl ⟨⟨refusal, rfl⟩, Session.afterLog_of_unconfigured invalid _⟩

/-- **When an attempt fails.** With a configuration, cached or from the environment, and a wall
clock that shows a date, it gives a result: the value or the error that the configuration says.
Without a configuration it fails for want of one exactly if it asks for it, and then it has kept and
written nothing. -/
theorem result_characterization (attempt : Attempt) (session : Session) :
    (∀ config, session.configuration = .ok config → Log.IsDatable session.wallTime →
      (attempt.action session).result = .ok (attempt.outcome config)) ∧
    (∀ error, session.config = none → Config.ofVariables session.environment = .error error →
      ((attempt.action session).result = .error (.config error) ↔ attempt.Consults) ∧
      (¬ attempt.Consults → ∃ given, (attempt.action session).result = .ok given) ∧
      (attempt.action session).session.config = none ∧ (attempt.action session).lines = []) := by
  constructor
  · intro config found datable
    exact attempt.result_of_isDatable found datable
  · intro error unloaded rejected
    have invalid : session.configuration = .error error := by
      rw [Session.configuration, unloaded]
      exact rejected
    have kept := (attempt.onlyLoads.loads session).eq_of_configuration_error invalid
    have silent := attempt.onlyLoads.lines_of_unconfigured session error invalid
    rw [kept]
    rcases attempt.result_of_unconfigured invalid with ⟨asks, failed⟩ | ⟨asks, given, gave⟩
    · exact ⟨iff_of_true failed asks, fun quiet => absurd asks quiet, unloaded, silent⟩
    · refine ⟨iff_of_false ?_ asks, fun _ => ⟨given, gave⟩, unloaded, silent⟩
      intro failed
      cases gave.symm.trans failed

/-- With a level that does not exist, a text is parsed only by a caller that chooses how. Where a
configuration is kept, a missing address is rejected and logged. -/
theorem result_characterization_loud :
    let loud : Session := { Session.initial with environment := [("IFADDR_LOG_LEVEL", "loud")] }
    let error : ConfigError := ⟨["logging.level: Invalid enum value. Expected 'trace' | 'debug' " ++
      "| 'info' | 'warn' | 'error' | 'fatal', received 'loud'"]⟩
    let logging : Config := { Config.forDeployment .test with logging := ⟨.debug, false, true⟩ }
    let configured : Session := { loud with config := some logging }
    let parse (choice : Option Bool) : Attempt := .parse "fe80::1/64" .empty choice
    let create : Attempt := .create ⟨.missing, some 24, .empty⟩ none
    ((parse none).action loud).result = .error (.config error) ∧
    ((parse none).action loud).session.config = none ∧ ((parse none).action loud).lines = [] ∧
    (∃ given, ((parse (some true)).action loud).result = .ok given) ∧
    (create.action loud).result = .error (.config error) ∧
    (create.action configured).result = .ok (.error Rejection.missingAddress) := by
  intro loud error logging configured parse create
  have invalid : Config.ofVariables loud.environment = .error error := by decide +kernel
  have parsed : ((Draft.ofText "fe80::1/64" .empty).build true).isOk = true := by decide +kernel
  have accepted (rejection : Rejection) :
      (Draft.ofText "fe80::1/64" .empty).build true ≠ .error rejection := by
    intro rejected
    rw [rejected] at parsed
    cases parsed
  have asks : (parse none).Consults := .inl ⟨⟨"fe80::1", by decide +kernel⟩, rfl⟩
  have quiet : ¬ (parse (some true)).Consults := by
    rintro (⟨_, chosen⟩ | ⟨rejection, rejected⟩)
    · cases chosen
    · exact accepted rejection rejected
  have rejects : create.Consults := .inr ⟨.missingAddress, rfl⟩
  have unconfigured := (result_characterization (parse none) loud).2 error rfl invalid
  have chosen := (result_characterization (parse (some true)) loud).2 error rfl invalid
  have rejected := (result_characterization create loud).2 error rfl invalid
  have given := (result_characterization create configured).1 logging rfl (by decide)
  exact ⟨unconfigured.1.mpr asks, unconfigured.2.2.1, unconfigured.2.2.2, chosen.2.1 quiet,
    rejected.1.mpr rejects, given⟩

end Attempt

end InterfaceAddress
