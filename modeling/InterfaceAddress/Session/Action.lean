import InterfaceAddress.Config.Variables
import InterfaceAddress.Log.Logger
import InterfaceAddress.Wire.Decode

/-! # Sessions and actions

A session is what operations share: the environment variables, the configuration
once it is loaded, two clocks and the sink that receives log lines. An action
runs in a session and gives a result, the session after it and the lines it
wrote, in order. A failing action keeps the changes and the lines made before it
failed.
-/

namespace InterfaceAddress

/-- What receives the lines of the log. It is handed a level and a text and nothing of the session,
so that it cannot call back. -/
structure Log.Receiver where
  /-- The channel on which an entry of a level arrives. -/
  channel : Level → String
  /-- The error that handing over a line ends with, if it does not return. -/
  raised? : Level → String → Option RaisedError

/-- Handing over a line returns, whatever the line is. -/
def Log.Receiver.Returns (receiver : Receiver) : Prop :=
  ∀ level text, receiver.raised? level text = none

/-- A receiver that returns from every line. -/
structure Log.Sink extends Receiver where
  returns : toReceiver.Returns

namespace Log.Sink

/-- The sink that keeps lines apart by their levels. -/
def capture : Sink where
  channel level := "sink." ++ level.name
  raised? _ _ := none
  returns _ _ := rfl

/-- The console, on which errors and warnings have channels of their own. -/
def console : Sink where
  channel
    | .error | .fatal => "console.error"
    | .warn => "console.warn"
    | _ => "console.log"
  raised? _ _ := none
  returns _ _ := rfl

end Log.Sink

structure Log.Line where
  sink : Sink
  level : Level
  text : String

/-- What operations share. -/
structure Session where
  environment : Variables
  config : Option Config
  /-- Milliseconds since the start of 1970. -/
  wallTime : Int
  /-- Nanoseconds on a clock that is never set back. -/
  monotonicTime : Int
  sink : Log.Sink

namespace Session

/-- A session in which no configuration is loaded and lines go to the console. -/
def initial : Session := ⟨[], none, 0, 0, .console⟩

/-- The monotonic clock in whole milliseconds, the unit of lifetimes. -/
def now (session : Session) : Binary64 := .ofInt (session.monotonicTime.tdiv 1000000)

end Session

/-- Why an action fails. -/
inductive Failure where
  | config (error : ConfigError)
  | rejected (rejection : Rejection)
  | notEncoded (error : Wire.EncodeError)
  | notDecoded (error : Wire.DecodeError)
  | undated (error : Log.UndatedError)
  | raised (error : RaisedError)
deriving DecidableEq

/-- What an action leaves behind. -/
structure Outcome (α : Type) where
  result : Except Failure α
  session : Session
  lines : List Log.Line

/-- A step in a session. -/
def Action (α : Type) : Type := Session → Outcome α

namespace Action

def run (action : Action α) (session : Session) : Outcome α := action session

def pure (value : α) : Action α := fun session => ⟨.ok value, session, []⟩

/-- Run a second action that depends on the value of the first. -/
def bind (first : Action α) (second : α → Action β) : Action β := fun session =>
  let before := first session
  match before.result with
  | .error failure => ⟨.error failure, before.session, before.lines⟩
  | .ok value =>
    let after := second value before.session
    ⟨after.result, after.session, before.lines ++ after.lines⟩

instance : Monad Action where
  pure := pure
  bind := bind

@[simp] theorem pure_run (value : α) (session : Session) :
    (Pure.pure value : Action α) session = ⟨.ok value, session, []⟩ := rfl

/-- After a failure the second action does not run. -/
theorem bind_run_error {first : Action α} {second : α → Action β} {session : Session}
    {failure : Failure} (failed : (first session).result = .error failure) :
    (first >>= second) session =
      ⟨.error failure, (first session).session, (first session).lines⟩ := by
  change Action.bind first second session = _
  simp only [Action.bind, failed]

/-- After a value the second action runs in the session that the first one left. -/
theorem bind_run_ok {first : Action α} {second : α → Action β} {session : Session} {value : α}
    (succeeded : (first session).result = .ok value) :
    (first >>= second) session =
      ⟨(second value (first session).session).result,
        (second value (first session).session).session,
        (first session).lines ++ (second value (first session).session).lines⟩ := by
  change Action.bind first second session = _
  simp only [Action.bind, succeeded]

instance : LawfulMonad Action := LawfulMonad.mk' Action
  (by
    intro α action
    funext session
    change Action.bind action Action.pure session = action session
    rcases outcome : action session with ⟨result, after, lines⟩
    cases result <;> simp [Action.bind, Action.pure, outcome])
  (by
    intro α β value second
    funext session
    change Action.bind (Action.pure value) second session = second value session
    simp [Action.bind, Action.pure])
  (by
    intro α β γ first second third
    funext session
    change Action.bind (Action.bind first second) third session =
      Action.bind first (fun value => Action.bind (second value) third) session
    rcases outcome : first session with ⟨result, after, lines⟩
    cases result with
    | error failure => simp [Action.bind, outcome]
    | ok value =>
      rcases next : second value after with ⟨nextResult, last, nextLines⟩
      cases nextResult <;> simp [Action.bind, outcome, next])

def fail (failure : Failure) : Action α := fun session => ⟨.error failure, session, []⟩

def session : Action Session := fun session => ⟨.ok session, session, []⟩

def modify (change : Session → Session) : Action Unit := fun session =>
  ⟨.ok (), change session, []⟩

/-- Hand a line over to a sink, which may end in an error that the receiver raises. -/
def emit (sink : Log.Sink) (level : Log.Level) (text : String) : Action Unit := fun session =>
  match sink.raised? level text with
  | none => ⟨.ok (), session, [⟨sink, level, text⟩]⟩
  | some error => ⟨.error (.raised error), session, [⟨sink, level, text⟩]⟩

/-- A sink returns. -/
@[simp] theorem emit_run (sink : Log.Sink) (level : Log.Level) (text : String)
    (session : Session) : emit sink level text session = ⟨.ok (), session, [⟨sink, level, text⟩]⟩ := by
  simp only [emit, sink.returns level text]

/-- Fail where the value is an error. -/
def orFail (wrap : ε → Failure) (action : Action (Except ε α)) : Action α := do
  match ← action with
  | .ok value => pure value
  | .error error => fail (wrap error)

end Action

end InterfaceAddress
