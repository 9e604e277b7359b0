import InterfaceAddress.Session.Action

/-! # The configuration of a session

The configuration is loaded from the environment variables when it is first
needed and kept from then on. A configuration that cannot be loaded or installed
leaves the session as it was.
-/

namespace InterfaceAddress.Session

/-- Keep a configuration, or fail and keep the session as it was. -/
def install (config : Except ConfigError Config) : Action Config := do
  match config with
  | .ok config =>
    Action.modify fun session => { session with config := some config }
    return config
  | .error error => Action.fail (.config error)

/-- The configuration, loaded from the environment variables if there is none yet. -/
def settings : Action Config := do
  let session ← Action.session
  match session.config with
  | some config => return config
  | none => install (Config.ofVariables session.environment)

def isLoaded : Action Bool := return (← Action.session).config.isSome

def forget : Action Unit := Action.modify fun session => { session with config := none }

/-- Keep the configuration of the deployment with overrides over it. -/
def installOverrides (overrides : Value) : Action Config := do
  let base := Config.forDeployment (← Action.session).environment.deployment
  install (Config.ofValue (base.override overrides))

def setVariables (changes : List (String × Option String)) : Action Unit :=
  Action.modify fun session => { session with
    environment := changes.foldl (fun environment change => environment.set change.1 change.2)
      session.environment }

def setWallTime (time : Int) : Action Unit :=
  Action.modify fun session => { session with wallTime := time }

def setMonotonicTime (time : Int) : Action Unit :=
  Action.modify fun session => { session with monotonicTime := time }

def setSink (sink : Log.Sink) : Action Unit :=
  Action.modify fun session => { session with sink }

end InterfaceAddress.Session
