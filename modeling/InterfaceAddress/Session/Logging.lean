import InterfaceAddress.Session.Settings

/-! # Writing to a log

Level, format and the master switch are read from the configuration for every
message, so that a logger follows each change of it. An entry that is let through
needs a date: where the wall clock has none, writing it fails.
-/

namespace InterfaceAddress

/-- Whether a configuration lets entries of a level through. -/
def LoggingConfig.admits (config : LoggingConfig) (level : Log.Level) : Bool :=
  config.enabled && level.reaches config.level

/-- The text of an entry in the format of a configuration. -/
def LoggingConfig.format (config : LoggingConfig) (entry : Log.Entry) : String :=
  if config.pretty then entry.pretty else entry.json

namespace Log.Logger

/-- Whether entries of a level are written. -/
def isEnabled (_ : Logger) (level : Level) : Action Bool :=
  return (← Session.settings).logging.admits level

/-- Write a message with a context, which takes a date if the message is let through. -/
def write (logger : Logger) (level : Level) (message : String) (context : Members) :
    Action Unit := do
  let config ← Session.settings
  if config.logging.admits level then
    let session ← Action.session
    if IsDatable session.wallTime then
      let entry := logger.entry level session.wallTime message context
      Action.emit session.sink level (config.logging.format entry)
    else Action.fail (.undated ⟨session.wallTime⟩)

/-- Write a message about a fault. The fault is converted to text before the level is looked at. -/
def writeFault (logger : Logger) (level : Level) (message : String) (fault : Fault)
    (context : Members) : Action Unit := do
  match fault.report context with
  | .ok context => logger.write level message context
  | .error error => Action.fail (.raised error)

end Log.Logger

end InterfaceAddress
