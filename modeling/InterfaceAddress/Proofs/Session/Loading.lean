import InterfaceAddress.Proofs.Session.Routine
import Mathlib

/-! # Actions that at most load the configuration

Building, converting, encoding and decoding only read the session and write to
its log. They leave the session they found, at most with its configuration
loaded, and without a configuration they write nothing (`Action.OnlyLoads`). A
sequence keeps this rule if its parts do, so that it holds of every operation
(`Action.IsRoutine.onlyLoads`).
-/

namespace InterfaceAddress

/-! ### Sessions with a loaded configuration -/

namespace Session

variable {session middle last : Session} {config : Config} {error : ConfigError}

/-- The session that an action leaves is the one it found or that with its configuration loaded. -/
inductive Loads (session : Session) : Session → Prop where
  | unchanged : session.Loads session
  | loaded : session.Loads session.loaded

theorem configuration_of_config (cached : session.config = some config) :
    session.configuration = .ok config := by
  rw [configuration, cached]

theorem loaded_of_config (cached : session.config = some config) : session.loaded = session := by
  rcases session with ⟨environment, _ | found, wallTime, monotonicTime, sink⟩
  · cases cached
  · rfl

theorem config_of_configuration_error (invalid : session.configuration = .error error) :
    session.config = none := by
  rcases session with ⟨environment, _ | found, wallTime, monotonicTime, sink⟩
  · rfl
  · cases invalid

theorem loaded_of_configuration_error (invalid : session.configuration = .error error) :
    session.loaded = session := by
  have unloaded := config_of_configuration_error invalid
  rw [loaded, invalid, Except.toOption, ← unloaded]

theorem configuration_of_logFailure? {level : Log.Level}
    (stopped : session.logFailure? level = some (.config error)) :
    session.configuration = .error error := by
  unfold logFailure? at stopped
  cases found : session.configuration with
  | error other =>
    simp only [found] at stopped
    cases stopped
    rfl
  | ok config =>
    simp only [found] at stopped
    split at stopped <;> cases stopped

@[simp] theorem loaded_loaded (session : Session) : session.loaded.loaded = session.loaded := by
  rw [loaded, configuration_loaded]
  rfl

namespace Loads

theorem trans (first : session.Loads middle) (second : middle.Loads last) : session.Loads last := by
  cases first with
  | unchanged => exact second
  | loaded =>
    cases second with
    | unchanged => exact .loaded
    | loaded =>
      rw [loaded_loaded]
      exact .loaded

theorem configuration_eq (loads : session.Loads last) :
    last.configuration = session.configuration := by
  cases loads with
  | unchanged => rfl
  | loaded => exact configuration_loaded session

theorem wallTime_eq (loads : session.Loads last) : last.wallTime = session.wallTime := by
  cases loads <;> rfl

theorem sink_eq (loads : session.Loads last) : last.sink = session.sink := by
  cases loads <;> rfl

theorem logFailure?_eq (loads : session.Loads last) (level : Log.Level) :
    last.logFailure? level = session.logFailure? level := by
  cases loads with
  | unchanged => rfl
  | loaded => exact logFailure?_loaded session level

/-- A configuration that is kept is not loaded again. -/
theorem eq_of_config (loads : session.Loads last) (cached : session.config = some config) :
    last = session := by
  cases loads with
  | unchanged => rfl
  | loaded => exact loaded_of_config cached

/-- A configuration that cannot be loaded is not loaded. -/
theorem eq_of_configuration_error (loads : session.Loads last)
    (invalid : session.configuration = .error error) : last = session := by
  cases loads with
  | unchanged => rfl
  | loaded => exact loaded_of_configuration_error invalid

end Loads

end Session

/-! ### Actions -/

/-- An action that changes nothing in a session but loads its configuration. It fails for want of
a configuration only where there is none, and then has written nothing. -/
structure Action.OnlyLoads (action : Action α) : Prop where
  loads : ∀ session : Session, session.Loads (action session).session
  configuration_of_failed : ∀ (session : Session) (error : ConfigError),
    (action session).result = .error (.config error) → session.configuration = .error error
  lines_of_unconfigured : ∀ (session : Session) (error : ConfigError),
    session.configuration = .error error → (action session).lines = []

namespace Action.OnlyLoads

theorem pure (value : α) : (pure value : Action α).OnlyLoads where
  loads _ := .unchanged
  configuration_of_failed _ _ failed := by cases failed
  lines_of_unconfigured _ _ _ := rfl

theorem session : Action.session.OnlyLoads where
  loads _ := .unchanged
  configuration_of_failed _ _ failed := by cases failed
  lines_of_unconfigured _ _ _ := rfl

theorem settings : Session.settings.OnlyLoads where
  loads session := by
    rw [Session.settings_run]
    exact .loaded
  configuration_of_failed session error failed := by
    rw [Session.settings_run] at failed
    cases found : session.configuration with
    | ok config =>
      rw [found] at failed
      cases failed
    | error other =>
      rw [found] at failed
      cases failed
      rfl
  lines_of_unconfigured session _ _ := by rw [Session.settings_run]

/-- A failure of another kind than a missing configuration. -/
theorem fail {failure : Failure} (other : ∀ error, failure ≠ .config error) :
    (Action.fail failure : Action α).OnlyLoads where
  loads _ := .unchanged
  configuration_of_failed _ error failed := by
    cases failed
    exact absurd rfl (other error)
  lines_of_unconfigured _ _ _ := rfl

theorem write (logger : Log.Logger) (level : Log.Level) (message : String) (context : Members) :
    (logger.write level message context).OnlyLoads where
  loads session := by
    rw [Log.Logger.write_run]
    exact .loaded
  configuration_of_failed session error failed := by
    rw [Log.Logger.write_run] at failed
    cases stopped : session.logFailure? level with
    | none =>
      rw [stopped] at failed
      cases failed
    | some failure =>
      rw [stopped] at failed
      cases failed
      exact Session.configuration_of_logFailure? stopped
  lines_of_unconfigured session error invalid := by
    rw [Log.Logger.write_run]
    simp only [Log.Logger.linesIn, invalid]

theorem bind {first : Action α} {second : α → Action β} (firstLoads : first.OnlyLoads)
    (secondLoads : ∀ value, (second value).OnlyLoads) : (first >>= second).OnlyLoads where
  loads session := by
    cases ran : (first session).result with
    | error failure =>
      rw [bind_run_error ran]
      exact firstLoads.loads session
    | ok value =>
      rw [bind_run_ok ran]
      exact (firstLoads.loads session).trans ((secondLoads value).loads _)
  configuration_of_failed session error failed := by
    cases ran : (first session).result with
    | error failure =>
      rw [bind_run_error ran] at failed
      cases failed
      exact firstLoads.configuration_of_failed session error ran
    | ok value =>
      rw [bind_run_ok ran] at failed
      have missing := (secondLoads value).configuration_of_failed _ error failed
      rwa [(firstLoads.loads session).configuration_eq] at missing
  lines_of_unconfigured session error invalid := by
    have silent := firstLoads.lines_of_unconfigured session error invalid
    cases ran : (first session).result with
    | error failure =>
      rw [bind_run_error ran]
      exact silent
    | ok value =>
      rw [bind_run_ok ran, silent]
      -- the second action finds the session in which there is no configuration
      have found := (firstLoads.loads session).eq_of_configuration_error invalid
      rw [found]
      exact (secondLoads value).lines_of_unconfigured session error invalid

end Action.OnlyLoads

/-- Every operation is put together from steps that at most load the configuration. -/
theorem Action.IsRoutine.onlyLoads {action : Action α} (routine : action.IsRoutine) :
    action.OnlyLoads := by
  induction routine with
  | pure value => exact .pure value
  | fail other => exact .fail other
  | setting read => exact .bind .settings fun _ => .pure _
  | clock => exact .bind .session fun _ => .pure _
  | write logger level message context => exact .write logger level message context
  | bind _ _ first second => exact .bind first second

end InterfaceAddress
