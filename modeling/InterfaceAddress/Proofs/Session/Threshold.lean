import InterfaceAddress.Proofs.Session.Command
import Mathlib

/-! # Raising the threshold of the log

Every message asks the configuration that is kept when it is written, whichever
logger writes it and whenever that logger was made. A threshold that is raised
therefore only removes lines. While entries can be dated this is kept by each
step of an operation (`Action.IsRoutine.thins`), and without a date nothing is
written. Tasks, which also make loggers, change the sink and set the clocks, are
added one after the other (`Workspace.lines_withThreshold`).
-/

namespace InterfaceAddress

variable {session : Session} {config : Config} {threshold level : Log.Level}

/-! ### Another threshold -/

/-- The same configuration with another threshold. -/
def Config.withThreshold (config : Config) (threshold : Log.Level) : Config :=
  { config with logging := { config.logging with level := threshold } }

/-- The same session, except for the threshold in the configuration that it keeps. -/
def Session.withThreshold (session : Session) (threshold : Log.Level) : Session :=
  { session with config := session.config.map (·.withThreshold threshold) }

/-- Whether a line is at least as severe as a threshold. -/
def Log.Line.reaches (threshold : Level) (line : Line) : Bool := line.level.reaches threshold

theorem Session.config_withThreshold (cached : session.config = some config)
    (threshold : Log.Level) :
    (session.withThreshold threshold).config = some (config.withThreshold threshold) := by
  rw [withThreshold, cached, Option.map_some]

theorem Log.Level.reaches_trans {higher middle lower : Log.Level}
    (above : higher.reaches middle = true) (below : middle.reaches lower = true) :
    higher.reaches lower = true := by
  simp only [reaches, decide_eq_true_eq] at above below ⊢
  exact Nat.le_trans below above

/-- A raised threshold lets the messages through that reach it. -/
theorem Config.admits_withThreshold (raised : threshold.reaches config.logging.level = true) :
    (config.withThreshold threshold).logging.admits level =
      (config.logging.admits level && level.reaches threshold) := by
  rw [LoggingConfig.admits, LoggingConfig.admits, withThreshold]
  cases reached : level.reaches threshold with
  | false => simp only [Bool.and_false]
  | true =>
    have admitted := Log.Level.reaches_trans reached raised
    simp only [admitted, Bool.and_true]

/-! ### What a message leaves -/

namespace Log.Logger

variable (logger : Logger) (message : String) (context : Members)

theorem linesIn_withThreshold (cached : session.config = some config)
    (raised : threshold.reaches config.logging.level = true) :
    logger.linesIn (session.withThreshold threshold) level message context =
      (logger.linesIn session level message context).filter (Line.reaches threshold) := by
  have found := Session.configuration_of_config cached
  have alsoFound :=
    Session.configuration_of_config (Session.config_withThreshold cached threshold)
  simp only [linesIn, found, alsoFound, Config.admits_withThreshold raised, Bool.and_eq_true]
  cases reached : level.reaches threshold with
  | false =>
    -- a message below the threshold leaves nothing, and the line it left before is removed
    rw [if_neg fun written => Bool.false_ne_true written.1.2]
    split <;> simp [Line.reaches, reached]
  | true =>
    by_cases written : config.logging.admits level = true ∧ IsDatable session.wallTime
    · rw [if_pos ⟨⟨written.1, rfl⟩, written.2⟩, if_pos written]
      simp only [Line.reaches, reached, List.filter_cons_of_pos, List.filter_nil]
      rfl
    · rw [if_neg fun also => written ⟨also.1.1, also.2⟩, if_neg written, List.filter_nil]

/-- Where nothing is logged or no entry can be dated, nothing is written. -/
theorem linesIn_eq_nil (cached : session.config = some config)
    (silent : config.logging.enabled = false ∨ ¬ IsDatable session.wallTime) :
    logger.linesIn session level message context = [] := by
  simp only [linesIn, Session.configuration_of_config cached]
  apply if_neg
  intro written
  cases silent with
  | inl disabled =>
    have enabled := (Bool.and_eq_true_iff.mp written.1).1
    exact Bool.false_ne_true (disabled.symm.trans enabled)
  | inr undated => exact undated written.2

end Log.Logger

/-! ### Operations -/

/-- Under another threshold an action gives the same and writes those of its lines that reach the
threshold. -/
structure Action.ThinsIn (action : Action α) (session : Session) (threshold : Log.Level) :
    Prop where
  result_eq : (action (session.withThreshold threshold)).result = (action session).result
  lines_eq : (action (session.withThreshold threshold)).lines =
    (action session).lines.filter (Log.Line.reaches threshold)

namespace Action

section Cached

variable (cached : session.config = some config)
include cached

theorem IsRoutine.session_eq {action : Action α} (routine : action.IsRoutine) :
    (action session).session = session :=
  (routine.onlyLoads.loads session).eq_of_config cached

theorem ThinsIn.bind {first : Action α} {second : α → Action β} (routine : first.IsRoutine)
    (firstThins : first.ThinsIn session threshold)
    (secondThins : ∀ value, (second value).ThinsIn session threshold) :
    (first >>= second).ThinsIn session threshold := by
  have unchanged := routine.session_eq cached
  have alsoUnchanged := routine.session_eq (Session.config_withThreshold cached threshold)
  cases gave : (first session).result with
  | error failure =>
    have alsoGave := firstThins.result_eq.trans gave
    constructor
    · rw [bind_run_error gave, bind_run_error alsoGave]
    · rw [bind_run_error gave, bind_run_error alsoGave]
      exact firstThins.lines_eq
  | ok value =>
    have alsoGave := firstThins.result_eq.trans gave
    constructor
    · rw [bind_run_ok gave, bind_run_ok alsoGave, unchanged, alsoUnchanged]
      exact (secondThins value).result_eq
    · rw [bind_run_ok gave, bind_run_ok alsoGave, unchanged, alsoUnchanged]
      simp only [firstThins.lines_eq, (secondThins value).lines_eq, List.filter_append]

/-- An operation that can date its entries thins. -/
theorem IsRoutine.thins {action : Action α} (routine : action.IsRoutine)
    (raised : threshold.reaches config.logging.level = true)
    (datable : Log.IsDatable session.wallTime) : action.ThinsIn session threshold := by
  induction routine with
  | pure value => exact ⟨rfl, rfl⟩
  | fail other => exact ⟨rfl, rfl⟩
  | clock => exact ⟨rfl, rfl⟩
  | setting read =>
    have found := Session.settings_run_of_ok (Session.configuration_of_config cached)
    have alsoFound := Session.settings_run_of_ok
      (Session.configuration_of_config (Session.config_withThreshold cached threshold))
    constructor
    · rw [bind_run_of_ok found, bind_run_of_ok alsoFound]
      rfl
    · rw [bind_run_of_ok found, bind_run_of_ok alsoFound]
      rfl
  | write logger level message context =>
    have dated := Session.logFailure?_of_isDatable
      (Session.configuration_of_config cached) datable level
    have alsoDated := Session.logFailure?_of_isDatable
      (Session.configuration_of_config (Session.config_withThreshold cached threshold)) datable level
    constructor
    · simp only [Log.Logger.write_run, dated, alsoDated]
    · rw [Log.Logger.write_run, Log.Logger.write_run]
      exact logger.linesIn_withThreshold message context cached raised
  | bind begins _ first second => exact first.bind cached begins second

/-- An operation that cannot write a line writes none. -/
theorem IsRoutine.lines_eq_nil {action : Action α} (routine : action.IsRoutine)
    (silent : config.logging.enabled = false ∨ ¬ Log.IsDatable session.wallTime) :
    (action session).lines = [] := by
  induction routine with
  | pure value => rfl
  | fail other => rfl
  | clock => rfl
  | setting read =>
    rw [bind_run_of_ok (Session.settings_run_of_ok (Session.configuration_of_config cached))]
    rfl
  | write logger level message context =>
    rw [Log.Logger.write_run]
    exact logger.linesIn_eq_nil message context cached silent
  | @bind _ _ action next begins _ first second =>
    cases gave : (action session).result with
    | error failure =>
      rw [bind_run_error gave]
      exact first
    | ok value =>
      rw [bind_run_ok gave, begins.session_eq cached, first, second value, List.append_nil]

/-- Under a raised threshold an operation writes those of its lines that reach the threshold,
whether its entries can be dated or not. -/
theorem IsRoutine.lines_of_raised {action : Action α} (routine : action.IsRoutine)
    (raised : threshold.reaches config.logging.level = true) :
    (action (session.withThreshold threshold)).lines =
      (action session).lines.filter (Log.Line.reaches threshold) := by
  by_cases datable : Log.IsDatable session.wallTime
  · exact (routine.thins cached raised datable).lines_eq
  · rw [routine.lines_eq_nil cached (.inr datable), List.filter_nil]
    exact routine.lines_eq_nil (Session.config_withThreshold cached threshold) (.inr datable)

end Cached

end Action

/-! ### Tasks -/

/-- A session and the loggers that were made in it, under the names given to them. -/
structure Workspace where
  session : Session
  loggers : List (String × Log.Logger)

namespace Workspace

/-- The logger of a name, which is the root logger where none was made. -/
def logger (workspace : Workspace) (name : String) : Log.Logger :=
  (workspace.loggers.lookup name).getD .root

/-- The workspace with another logger. -/
def keep (workspace : Workspace) (name : String) (logger : Log.Logger) : Workspace :=
  { workspace with loggers := (name, logger) :: workspace.loggers }

def withThreshold (workspace : Workspace) (threshold : Log.Level) : Workspace :=
  { workspace with session := workspace.session.withThreshold threshold }

/-- The lines of an action and the workspace after it, whether it succeeds or fails. -/
def run (workspace : Workspace) (action : Action α) : Workspace × List Log.Line :=
  let outcome := action workspace.session
  ({ workspace with session := outcome.session }, outcome.lines)

end Workspace

/-- What can be done in a workspace without touching or asking for the configuration. -/
inductive Task where
  | operate (operation : Operation)
  | makeLogger (name : String) (options : Option Log.ChildOptions)
  | makeChild (name parent : String) (options : Log.ChildOptions)
  | write (name : String) (level : Log.Level) (message : String) (context : Members)
  | writeFault (name : String) (level : Log.Level) (message : String) (fault : Log.Fault)
      (context : Members)
  | setSink (sink : Log.Sink)
  | setWallTime (time : Int)
  | setMonotonicTime (time : Int)

/-- The workspace after a task and the lines that were written. -/
def Workspace.perform (workspace : Workspace) : Task → Workspace × List Log.Line
  | .operate operation => workspace.run operation.action
  | .makeLogger name options =>
    (workspace.keep name (options.elim .root fun options => .child .root options), [])
  | .makeChild name parent options =>
    (workspace.keep name ((workspace.logger parent).child options), [])
  | .write name level message context =>
    workspace.run ((workspace.logger name).write level message context)
  | .writeFault name level message fault context =>
    workspace.run ((workspace.logger name).writeFault level message fault context)
  | .setSink sink => workspace.run (Session.setSink sink)
  | .setWallTime time => workspace.run (Session.setWallTime time)
  | .setMonotonicTime time => workspace.run (Session.setMonotonicTime time)

/-- The lines that a sequence of tasks writes. -/
def Workspace.lines (workspace : Workspace) : List Task → List Log.Line
  | [] => []
  | task :: rest => (workspace.perform task).2 ++ (workspace.perform task).1.lines rest

namespace Workspace

variable {workspace : Workspace}

section Cached

variable (cached : workspace.session.config = some config)
include cached

theorem run_withThreshold {action : Action α} (routine : action.IsRoutine)
    (raised : threshold.reaches config.logging.level = true) :
    (workspace.withThreshold threshold).run action =
      ((workspace.run action).1.withThreshold threshold,
        (workspace.run action).2.filter (Log.Line.reaches threshold)) := by
  have unchanged := routine.session_eq cached
  have alsoUnchanged := routine.session_eq (Session.config_withThreshold cached threshold)
  have written := routine.lines_of_raised cached raised
  simp only [run, withThreshold, unchanged, alsoUnchanged, written]

theorem config_run {action : Action α} (routine : action.IsRoutine) :
    (workspace.run action).1.session.config = some config := by
  rw [run, routine.session_eq cached]
  exact cached

/-- A task does the same under a raised threshold, except for the lines that do not reach it. -/
theorem perform_withThreshold (raised : threshold.reaches config.logging.level = true)
    (task : Task) : (workspace.withThreshold threshold).perform task =
      ((workspace.perform task).1.withThreshold threshold,
        (workspace.perform task).2.filter (Log.Line.reaches threshold)) := by
  cases task with
  | operate operation => exact run_withThreshold cached operation.isRoutine raised
  | write name level message context => exact run_withThreshold cached (.write ..) raised
  | writeFault name level message fault context =>
    exact run_withThreshold cached (Log.Logger.writeFault_isRoutine ..) raised
  | makeLogger | makeChild | setSink | setWallTime | setMonotonicTime => rfl

/-- No task touches the configuration. -/
theorem config_perform (task : Task) :
    (workspace.perform task).1.session.config = some config := by
  cases task with
  | operate operation => exact config_run cached operation.isRoutine
  | write name level message context => exact config_run cached (.write ..)
  | writeFault name level message fault context =>
    exact config_run cached (Log.Logger.writeFault_isRoutine ..)
  | makeLogger | makeChild | setSink | setWallTime | setMonotonicTime => exact cached

theorem lines_perform_of_disabled (disabled : config.logging.enabled = false) (task : Task) :
    (workspace.perform task).2 = [] := by
  cases task with
  | operate operation => exact operation.isRoutine.lines_eq_nil cached (.inl disabled)
  | write name level message context =>
    exact Action.IsRoutine.lines_eq_nil cached (.write ..) (.inl disabled)
  | writeFault name level message fault context =>
    exact (Log.Logger.writeFault_isRoutine ..).lines_eq_nil cached (.inl disabled)
  | makeLogger | makeChild | setSink | setWallTime | setMonotonicTime => rfl

end Cached

/-- **A raised threshold only removes lines.** Whatever is done in two workspaces that differ in
the threshold alone, the one with the higher threshold writes the lines of the other that reach it,
in their order and on their channels. No line is written where logging is disabled. -/
theorem lines_withThreshold (workspace : Workspace) (config : Config) (threshold : Log.Level)
    (tasks : List Task) (cached : workspace.session.config = some config)
    (raised : threshold.reaches config.logging.level = true) :
    (workspace.withThreshold threshold).lines tasks =
      (workspace.lines tasks).filter (Log.Line.reaches threshold) ∧
    (config.logging.enabled = false → workspace.lines tasks = []) := by
  induction tasks generalizing workspace with
  | nil => exact ⟨rfl, fun _ => rfl⟩
  | cons task rest ih =>
    -- the next task finds the configuration that this one found
    obtain ⟨thinned, silent⟩ := ih (workspace.perform task).1 (config_perform cached task)
    constructor
    · rw [lines, lines, perform_withThreshold cached raised task, List.filter_append, thinned]
    · intro disabled
      rw [lines, lines_perform_of_disabled cached disabled task, silent disabled, List.append_nil]

/-- A snapshot with an accepted and a rejected record, then a child of a child writes an error to
another sink. -/
theorem lines_withThreshold_instance :
    let logging : LoggingConfig := ⟨.trace, false, true⟩
    let config : Config := { Config.forDeployment .test with logging }
    let silent : Config := { config with logging := { logging with enabled := false } }
    let workspace : Workspace := ⟨⟨[], some config, 0, 0, .capture⟩, []⟩
    let disabled : Workspace := ⟨⟨[], some silent, 0, 0, .capture⟩, []⟩
    let good : Members := [("address", .text "::1"), ("cidr", .text "::1/128")]
    let group : Members := [("address", .text "ff02::1"), ("cidr", .text "ff02::1/128")]
    let tasks : List Task := [.operate (.snapshot [("lo", some [good, group])] none),
      .makeLogger "server" (some ⟨some "server", []⟩), .makeChild "peer" "server" ⟨none, []⟩,
      .setSink .console, .write "peer" .info "started" [],
      .writeFault "peer" .error "stopped" (.value (.text "timeout")) []]
    (workspace.lines tasks).map Log.Line.level = [.trace, .debug, .warn, .debug, .info, .error] ∧
    ((workspace.withThreshold .warn).lines tasks).map Log.Line.level = [.warn, .error] ∧
    disabled.lines tasks = [] := by
  intro logging config silent workspace disabled good group tasks
  have written : (workspace.lines tasks).map Log.Line.level =
      [.trace, .debug, .warn, .debug, .info, .error] := by
    decide +kernel
  have thinned := (lines_withThreshold workspace config .warn tasks rfl rfl).1
  refine ⟨written, ?_, (lines_withThreshold disabled silent .warn tasks rfl rfl).2 rfl⟩
  rw [thinned]
  decide +kernel

end Workspace

end InterfaceAddress
