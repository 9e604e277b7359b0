import InterfaceAddress.Proofs.Config.Schema
import InterfaceAddress.Proofs.Session.Command
import Mathlib

/-! # The configuration that a session keeps

Whatever is done in a session, a configuration that it keeps is one that the
schema accepts and reads back unchanged. A command that fails for want of a
configuration leaves what was kept, and once a configuration is kept, only a
reset or an installation that succeeds replaces it (`Session.cache_afterAll`).
-/

namespace InterfaceAddress

/-! ### Commands that replace the configuration -/

/-- Forgetting the configuration, or installing one with success. -/
def Command.Replaces : Command → Session → Prop
  | resetConfig, _ => True
  | installConfig overrides, session =>
    ∃ config, (Session.installOverrides overrides session).result = .ok config
  | _, _ => False

/-- No command of the sequence replaces the configuration of the session it runs in. -/
def Session.IsKeptBy (session : Session) : List Command → Prop
  | [] => True
  | command :: rest =>
    ¬ command.Replaces session ∧ IsKeptBy (command.action session).session rest

/-! ### One command -/

namespace Session

variable {session : Session} {config : Config} {error : ConfigError}

theorem settings_result (session : Session) :
    (settings session).result = session.configuration.mapError .config := by
  rw [settings_run]

theorem settings_result_of_config (cached : session.config = some config) :
    (settings session).result = .ok config := by
  rw [settings_result, configuration_of_config cached]
  rfl

/-- An installation that fails changes nothing. -/
theorem installOverrides_session_of_error {overrides : Value} {failure : Failure}
    (failed : (installOverrides overrides session).result = .error failure) :
    (installOverrides overrides session).session = session := by
  let base := Config.forDeployment session.environment.deployment
  have ran : installOverrides overrides session =
      install (Config.ofValue (base.override overrides)) session := rfl
  rw [ran] at failed ⊢
  cases accepted : Config.ofValue (base.override overrides) with
  | error error => rfl
  | ok config =>
    rw [accepted] at failed
    cases failed

end Session

namespace Command

variable {command : Command} {session : Session} {config : Config} {error : ConfigError}

/-- A command that fails for want of a configuration changes nothing. -/
theorem session_of_failed
    (failed : (command.action session).result = .error (.config error)) :
    (command.action session).session = session := by
  by_cases passive : command.IsPassive
  · have loads := command.onlyLoads passive
    exact (loads.loads session).eq_of_configuration_error
      (loads.configuration_of_failed session error failed)
  · cases command with
    | installConfig overrides => exact Session.installOverrides_session_of_error failed
    | setSink | resetConfig | setVariables | setWallTime | setMonotonicTime => cases failed
    | _ => exact absurd trivial passive

/-- A configuration that is kept stays until a command replaces it. -/
theorem config_of_not_replaces (cached : session.config = some config)
    (keeps : ¬ command.Replaces session) :
    (command.action session).session.config = some config := by
  by_cases passive : command.IsPassive
  · rw [((command.onlyLoads passive).loads session).eq_of_config cached]
    exact cached
  · cases command with
    | setSink | setVariables | setWallTime | setMonotonicTime => exact cached
    | resetConfig => exact absurd trivial keeps
    | installConfig overrides =>
      cases result : (Session.installOverrides overrides session).result with
      | ok installed => exact absurd ⟨installed, result⟩ keeps
      | error failure =>
        rw [action, Session.installOverrides_session_of_error result]
        exact cached
    | _ => exact absurd trivial passive

end Command

/-! ### Sequences of commands -/

namespace Session

variable {session : Session} {config : Config}

/-- A configuration that is kept stays through every sequence that never replaces it. -/
theorem config_afterAll {commands : List Command} (cached : session.config = some config)
    (kept : session.IsKeptBy commands) : (session.afterAll commands).config = some config := by
  induction commands generalizing session with
  | nil => exact cached
  | cons command rest ih => exact ih (command.config_of_not_replaces cached kept.1) kept.2

/-- **The cached configuration is always valid and is never lost unasked.** After every sequence of
commands the session keeps no configuration or one that the schema accepts and reads back unchanged.
A command that then fails for want of a configuration leaves what is kept, and what the
configuration is asked to be stays the same through every further sequence of commands without a
reset and without an installation that succeeds. -/
theorem cache_afterAll (start : Session) (commands : List Command) :
    let session := start.afterAll commands
    (session.config = none ∨
      ∃ config, session.config = some config ∧ Config.ofValue config.toValue = .ok config) ∧
    (∀ (command : Command) (error : ConfigError),
      (command.action session).result = .error (.config error) →
        (command.action session).session.config = session.config) ∧
    (∀ (config : Config) (further : List Command), session.config = some config →
      session.IsKeptBy further →
        (settings session).result = .ok config ∧
        (settings (session.afterAll further)).result = .ok config) := by
  intro session
  refine ⟨?_, ?_, ?_⟩
  · cases session.config with
    | none => exact .inl rfl
    | some config => exact .inr ⟨config, rfl, config.ofValue_toValue⟩
  · intro command error failed
    rw [Command.session_of_failed failed]
  · intro config further cached kept
    exact ⟨settings_result_of_config cached,
      settings_result_of_config (config_afterAll cached kept)⟩

/-- A configuration is loaded late, after a load that failed, and then outlives a change of the
environment and an installation that fails. -/
theorem cache_afterAll_retried :
    let loud : Command := .setVariables [("IFADDR_LOG_LEVEL", some "loud")]
    let commands : List Command := [loud, .askConfig, .setVariables [("IFADDR_LOG_LEVEL", none)],
      .operate (.attempt (.parse "fe80::1/64" .empty none))]
    let session := initial.afterAll commands
    let overrides : Value := .object [("logging", .object [("pretty", .null)])]
    let install : Command := .installConfig overrides
    let config := Config.forDeployment .development
    let error : ConfigError := ⟨["logging.pretty: Expected boolean, received null"]⟩
    session.config = some config ∧
    (install.action session).result = .error (.config error) ∧
    (install.action session).session.config = session.config ∧
    session.IsKeptBy [loud, install] ∧
    (settings (session.afterAll [loud, install])).result = .ok config := by
  intro loud commands session overrides install config error
  have cached : session.config = some config := by decide +kernel
  have failed : (installOverrides overrides session).result = .error (.config error) := by
    decide +kernel
  have failedAgain : (installOverrides overrides (loud.action session).session).result =
      .error (.config error) := by
    decide +kernel
  have kept : session.IsKeptBy [loud, install] := by
    refine ⟨id, ?_, trivial⟩
    rintro ⟨installed, succeeded⟩
    rw [failedAgain] at succeeded
    cases succeeded
  have invariant := cache_afterAll initial commands
  have reached : initial.afterAll commands = session := rfl
  -- the session reached is not computed again for what follows from the invariant
  clear_value session
  rw [reached] at invariant
  have unchanged := invariant.2.1 install error failed
  have answered := invariant.2.2 config _ cached kept
  exact ⟨cached, failed, unchanged, kept, answered.2⟩

end Session

end InterfaceAddress
