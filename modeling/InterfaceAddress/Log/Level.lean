/-! # Log levels

Levels are ordered by severity. Each has a name, a code, a label of five columns
and a colour for terminals.
-/

namespace InterfaceAddress.Log

inductive Level where
  | trace
  | debug
  | info
  | warn
  | error
  | fatal
deriving DecidableEq

namespace Level

/-- The levels in order of severity. -/
def all : List Level := [trace, debug, info, warn, error, fatal]

def name : Level → String
  | trace => "trace"
  | debug => "debug"
  | info => "info"
  | warn => "warn"
  | error => "error"
  | fatal => "fatal"

/-- The numeric code; a more severe level has a larger one. -/
def code : Level → Nat
  | trace => 10
  | debug => 20
  | info => 30
  | warn => 40
  | error => 50
  | fatal => 60

/-- The name in capitals, filled up to five columns. -/
def label : Level → String
  | trace => "TRACE"
  | debug => "DEBUG"
  | info => "INFO "
  | warn => "WARN "
  | error => "ERROR"
  | fatal => "FATAL"

/-- The terminal sequence for the colour. -/
def color : Level → String
  | trace => "\x1b[90m"
  | debug => "\x1b[36m"
  | info => "\x1b[32m"
  | warn => "\x1b[33m"
  | error => "\x1b[31m"
  | fatal => "\x1b[35m"

/-- Whether a level is at least as severe as a threshold. -/
def reaches (level threshold : Level) : Bool := threshold.code ≤ level.code

end Level

end InterfaceAddress.Log
