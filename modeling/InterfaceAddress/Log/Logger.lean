import InterfaceAddress.Log.Entry

/-! # Loggers

A logger has a component and a context that it adds to its entries. A child
keeps the component of its parent unless it is given one, and its context is
merged over that of its parent. Faults are reported in members of their own, which
takes a conversion to text that may raise an error.
-/

namespace InterfaceAddress.Log

/-- What a logger adds to its entries. -/
structure Logger where
  component : Option String
  context : Members

/-- What a child is given of its own. -/
structure ChildOptions where
  component : Option String
  context : Members

namespace Logger

/-- The logger that adds nothing. -/
def root : Logger := ⟨none, []⟩

/-- A logger that adds to what its parent adds. -/
def child (parent : Logger) (options : ChildOptions) : Logger :=
  ⟨options.component.orElse fun _ => parent.component, parent.context.merge options.context⟩

/-- The child of the root logger for a component. -/
def forComponent (name : String) : Logger := root.child ⟨some name, []⟩

/-- The logger for descriptors. -/
def address : Logger := forComponent "address"

/-- The logger for encoded records. -/
def codec : Logger := forComponent "codec"

/-- The logger for interface records. -/
def platform : Logger := forComponent "platform"

/-- The entry for a message of this logger. -/
def entry (logger : Logger) (level : Level) (time : Int) (message : String) (context : Members) :
    Entry :=
  ⟨level, message, time, logger.component, logger.context.merge context⟩

end Logger

/-- What went wrong, as told to a logger: an error with a name, a message and what caused it, data
of any shape, or anything else, of which only its conversion to text is known. An absent value is
nothing to tell. -/
inductive Fault where
  | error (name message : String) (cause : Fault)
  | value (value : Value)
  | other (shown : Except RaisedError String)
deriving Inhabited

namespace Fault

def isAbsent : Fault → Bool
  | value given => given.isAbsent
  | _ => false

/-- A fault in a sentence. An error leaves out its name or its message if that is empty. -/
def display : Fault → Except RaisedError String
  | error name message _ =>
    .ok (if name = "" then message else if message = "" then name else name ++ ": " ++ message)
  | value given => given.display
  | other shown => shown

/-- The members that report a fault. -/
def members : Fault → Except RaisedError Members
  | error name message cause => do
    let own : Members := [("errorName", .text name), ("errorMessage", .text message)]
    if cause.isAbsent then return own
    return own ++ [("errorCause", .text (← cause.display))]
  | fault => return [("errorMessage", .text (← fault.display))]

/-- A context with the report of a fault, if there is one, merged over it. -/
def report (fault : Fault) (context : Members) : Except RaisedError Members := do
  if fault.isAbsent then return context
  return context.merge (← fault.members)

end Fault

end InterfaceAddress.Log
