import InterfaceAddress.Session.Logging
import Mathlib

/-! # What the basic actions leave behind

An action that asks for the configuration loads it (`Session.settings_run`), and
one that writes to a log fails exactly if the configuration cannot be loaded or
the entry is let through without a date (`Log.Logger.write_run`). Neither changes
anything else in the session.
-/

namespace InterfaceAddress

/-- What is left behind when these lines were written before. -/
def Outcome.after (lines : List Log.Line) (outcome : Outcome α) : Outcome α :=
  { outcome with lines := lines ++ outcome.lines }

@[simp] theorem Outcome.after_nil (outcome : Outcome α) : outcome.after [] = outcome := rfl

namespace Action

variable {first : Action α} {second : α → Action β} {session : Session}

theorem bind_run_of_ok {value : α} {next : Session} {lines : List Log.Line}
    (ran : first session = ⟨.ok value, next, lines⟩) :
    (first >>= second) session = (second value next).after lines := by
  have gave : (first session).result = .ok value := by rw [ran]
  rw [bind_run_ok gave, ran]
  rfl

theorem bind_run_of_error {failure : Failure} {next : Session} {lines : List Log.Line}
    (ran : first session = ⟨.error failure, next, lines⟩) :
    (first >>= second) session = ⟨.error failure, next, lines⟩ := by
  have failed : (first session).result = .error failure := by rw [ran]
  rw [bind_run_error failed, ran]

/-- Both actions of a sequence that gives a value give one. -/
theorem bind_result_eq_ok_iff {result : β} : ((first >>= second) session).result = .ok result ↔
    ∃ value, (first session).result = .ok value ∧
      (second value (first session).session).result = .ok result := by
  cases ran : (first session).result with
  | error failure => simp [bind_run_error ran]
  | ok value => simp [bind_run_ok ran]

theorem orFail_result_eq_ok_iff {action : Action (Except ε α)} {wrap : ε → Failure} {value : α} :
    (orFail wrap action session).result = .ok value ↔
      (action session).result = .ok (.ok value) := by
  rw [orFail, bind_result_eq_ok_iff]
  constructor
  · rintro ⟨inner, gave, passed⟩
    cases inner with
    | error error => cases passed
    | ok inner =>
      cases passed
      exact gave
  · intro gave
    exact ⟨.ok value, gave, rfl⟩

end Action

/-! ### The configuration -/

/-- A more severe level is let through as well. -/
theorem LoggingConfig.admits_of_reaches {logging : LoggingConfig} {level higher : Log.Level}
    (reaches : higher.reaches level = true) (admitted : logging.admits level = true) :
    logging.admits higher = true := by
  simp only [admits, Log.Level.reaches, Bool.and_eq_true, decide_eq_true_eq] at reaches admitted ⊢
  exact ⟨admitted.1, Nat.le_trans admitted.2 reaches⟩

namespace Session

variable {session : Session}

/-- The configuration that is loaded or would be loaded. -/
def configuration (session : Session) : Except ConfigError Config :=
  match session.config with
  | some config => .ok config
  | none => Config.ofVariables session.environment

/-- The session after the configuration was asked for. -/
def loaded (session : Session) : Session :=
  { session with config := session.configuration.toOption }

@[simp] theorem wallTime_loaded (session : Session) : session.loaded.wallTime = session.wallTime :=
  rfl

@[simp] theorem configuration_loaded (session : Session) :
    session.loaded.configuration = session.configuration := by
  rcases session with ⟨environment, _ | config, wallTime, monotonicTime, sink⟩
  · cases found : Config.ofVariables environment <;>
      simp [loaded, configuration, found, Except.toOption]
  · rfl

/-- Asking for the configuration loads it and changes nothing else. -/
theorem settings_run (session : Session) : settings session =
    ⟨session.configuration.mapError .config, session.loaded, []⟩ := by
  rcases session with ⟨environment, _ | config, wallTime, monotonicTime, sink⟩
  · cases found : Config.ofVariables environment <;>
      simp [settings, Action.session, bind, Action.bind, install, found, configuration, loaded,
        Except.mapError, Except.toOption, Action.fail, Action.modify, pure, Action.pure]
  · rfl

theorem settings_run_of_ok {config : Config} (found : session.configuration = .ok config) :
    settings session = ⟨.ok config, session.loaded, []⟩ := by
  rw [settings_run, found]
  rfl

theorem settings_run_of_error {error : ConfigError}
    (invalid : session.configuration = .error error) :
    settings session = ⟨.error (.config error), session.loaded, []⟩ := by
  rw [settings_run, invalid]
  rfl

/-- The failure with which writing an entry of this level ends, if it does. -/
def logFailure? (session : Session) (level : Log.Level) : Option Failure :=
  match session.configuration with
  | .error error => some (.config error)
  | .ok config =>
    if config.logging.admits level ∧ ¬ Log.IsDatable session.wallTime then
      some (.undated ⟨session.wallTime⟩)
    else none

/-- A value, or the failure with which writing an entry of this level ends. -/
def afterLog (session : Session) (level : Log.Level) (value : α) : Except Failure α :=
  match session.logFailure? level with
  | some failure => .error failure
  | none => .ok value

@[simp] theorem logFailure?_loaded (session : Session) (level : Log.Level) :
    session.loaded.logFailure? level = session.logFailure? level := by
  unfold logFailure?
  rw [configuration_loaded, wallTime_loaded]

/-- With a configuration and a date, every entry can be written. -/
theorem logFailure?_of_isDatable {config : Config} (found : session.configuration = .ok config)
    (datable : Log.IsDatable session.wallTime) (level : Log.Level) :
    session.logFailure? level = none := by
  simp only [logFailure?, found]
  exact if_neg fun stopped => stopped.2 datable

/-- What is given after writing is the value. -/
theorem eq_of_afterLog {level : Log.Level} {value given : α}
    (gave : session.afterLog level value = .ok given) : given = value := by
  unfold afterLog at gave
  split at gave <;> cases gave
  rfl

theorem afterLog_of_isDatable {config : Config} (found : session.configuration = .ok config)
    (datable : Log.IsDatable session.wallTime) (level : Log.Level) (value : α) :
    session.afterLog level value = .ok value := by
  rw [afterLog, logFailure?_of_isDatable found datable]

/-- Whether a value is given depends on the session only through its log. -/
theorem afterLog_congr {other : Session} {level : Log.Level} {value : α}
    (same : session.logFailure? level = other.logFailure? level) :
    session.afterLog level value = other.afterLog level value := by
  unfold afterLog
  rw [same]

@[simp] theorem afterLog_loaded (session : Session) (level : Log.Level) (value : α) :
    session.loaded.afterLog level value = session.afterLog level value :=
  afterLog_congr (logFailure?_loaded session level)

/-- Where a level fails, a more severe one fails in the same way. -/
theorem logFailure?_of_reaches {level higher : Log.Level} (reaches : higher.reaches level = true)
    {failure : Failure} (fails : session.logFailure? level = some failure) :
    session.logFailure? higher = some failure := by
  unfold logFailure? at fails ⊢
  cases found : session.configuration with
  | error error => simpa only [found] using fails
  | ok config =>
    simp only [found] at fails ⊢
    split at fails
    case isFalse => cases fails
    case isTrue undated =>
      obtain ⟨admitted, undated⟩ := undated
      rw [if_pos ⟨LoggingConfig.admits_of_reaches reaches admitted, undated⟩]
      exact fails

end Session

/-! ### Writing -/

namespace Log.Logger

/-- The lines that a message leaves in a session that can write it. -/
def linesIn (logger : Logger) (session : Session) (level : Level) (message : String)
    (context : Members) : List Line :=
  match session.configuration with
  | .error _ => []
  | .ok config =>
    if config.logging.admits level ∧ IsDatable session.wallTime then
      [⟨session.sink, level,
        config.logging.format (logger.entry level session.wallTime message context)⟩]
    else []

/-- A message that is let through with a date is one line. -/
theorem linesIn_of_datable {session : Session} {config : Config} {level : Level} (logger : Logger)
    (found : session.configuration = .ok config) (admitted : config.logging.admits level = true)
    (datable : IsDatable session.wallTime) (message : String) (context : Members) :
    logger.linesIn session level message context = [⟨session.sink, level,
      config.logging.format (logger.entry level session.wallTime message context)⟩] := by
  simp only [linesIn, found]
  exact if_pos ⟨admitted, datable⟩

/-- Writing loads the configuration, fails as the session decides and else writes its lines. -/
theorem write_run (logger : Logger) (level : Level) (message : String) (context : Members)
    (session : Session) : logger.write level message context session =
      ⟨match session.logFailure? level with
        | some failure => .error failure
        | none => .ok (),
      session.loaded, logger.linesIn session level message context⟩ := by
  cases found : session.configuration with
  | error error =>
    rw [write, Action.bind_run_of_error (Session.settings_run_of_error found)]
    simp only [Session.logFailure?, linesIn, found]
  | ok config =>
    rw [write, Action.bind_run_of_ok (Session.settings_run_of_ok found), Outcome.after_nil]
    simp only [Session.logFailure?, linesIn, found]
    by_cases admitted : config.logging.admits level = true
    · by_cases datable : IsDatable session.wallTime
      · simp [admitted, datable, Action.session, bind, Action.bind, Session.loaded]
      · simp [admitted, datable, Action.session, bind, Action.bind, Action.fail]
    · simp [admitted]

/-- A value that is given once a message is written. -/
theorem write_bind_pure_run (logger : Logger) (level : Level) (message : String)
    (context : Members) (value : α) (session : Session) :
    (logger.write level message context >>= fun _ => (pure value : Action α)) session =
      ⟨session.afterLog level value, session.loaded,
        logger.linesIn session level message context⟩ := by
  cases fails : session.logFailure? level with
  | some failure =>
    have ran := logger.write_run level message context session
    rw [fails] at ran
    rw [Action.bind_run_of_error ran, Session.afterLog, fails]
  | none =>
    have ran := logger.write_run level message context session
    rw [fails] at ran
    rw [Action.bind_run_of_ok ran, Session.afterLog, fails]
    simp [Outcome.after]

end Log.Logger

end InterfaceAddress
