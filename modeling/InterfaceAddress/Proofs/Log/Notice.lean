import InterfaceAddress.Proofs.Session.Loading
import InterfaceAddress.Proofs.Value.Merge
import Mathlib

/-! # Notices

What operations tell the log is a few notices, each with the data it is about
(`Log.Notice`). An action that tells notices gives its value, leaves the session as
it is and writes exactly the lines of those notices that are let through
(`Action.Tells`). A sequence tells what its parts tell, one after the other
(`Action.Tells.bind`).
-/

namespace InterfaceAddress

open Wire

/-- What operations on descriptors, records and interfaces tell the log. -/
inductive Log.Notice where
  | rejected (draft : Draft) (rejection : Rejection)
  | notEncoded (error : EncodeError)
  | notDecoded (error : DecodeError) (length : Nat) (mode : Bool)
  | skipped (interface : String) (record : Members) (rejection : Rejection)
  | kept (interface : String) (descriptor : Descriptor)
  | taken (count : Nat)

namespace Log.Notice

def component : Notice → String
  | rejected .. => "address"
  | notEncoded .. | notDecoded .. => "codec"
  | skipped .. | kept .. | taken .. => "platform"

def level : Notice → Level
  | rejected .. | taken .. => .debug
  | notEncoded .. | notDecoded .. | skipped .. => .warn
  | kept .. => .trace

def message : Notice → String
  | rejected .. => "Rejected address descriptor"
  | notEncoded .. => "Failed to encode address descriptor"
  | notDecoded .. => "Failed to decode address descriptor"
  | skipped .. => "Skipping interface address"
  | kept .. => "Interface address"
  | taken .. => "Interface snapshot"

def context : Notice → Members
  | rejected draft rejection => draft.rejectionContext rejection
  | notEncoded error => [("reason", .text error.reason)]
  | notDecoded error length mode =>
    [("reason", .text error.reason.name), ("length", .number (.ofNat length)),
      ("legacyCompat", .bool mode)]
  | skipped interface record rejection =>
    [("interface", .text interface), ("address", (Value.object record).member "address"),
      ("reason", .text rejection.reason.name)]
  | kept interface descriptor =>
    [("interface", .text interface), ("address", .text descriptor.text),
      ("scope", .text (Scope.describe descriptor.scope))]
  | taken count => [("interfaces", .number (.ofNat count))]

/-- The call that writes a notice. -/
def post (notice : Notice) : Action Unit :=
  (Logger.forComponent notice.component).write notice.level notice.message notice.context

/-- The line of a notice. -/
def line (notice : Notice) (session : Session) (logging : LoggingConfig) : Line :=
  ⟨session.sink, notice.level, logging.format ⟨notice.level, notice.message, session.wallTime,
    some notice.component, notice.context⟩⟩

/-- The lines of those notices that are let through. -/
def lines (notices : List Notice) (session : Session) (logging : LoggingConfig) : List Line :=
  (notices.filter fun notice => logging.admits notice.level).map (·.line session logging)

variable {notice : Notice} {session : Session} {config : Config} {logging : LoggingConfig}

@[simp] theorem lines_nil : lines [] session logging = [] := rfl

@[simp] theorem lines_append (notices others : List Notice) :
    lines (notices ++ others) session logging =
      lines notices session logging ++ lines others session logging := by
  simp only [lines, List.filter_append, List.map_append]

theorem lines_cons_of_admits (admitted : logging.admits notice.level = true)
    (others : List Notice) : lines (notice :: others) session logging =
      notice.line session logging :: lines others session logging := by
  simp only [lines, List.filter_cons, admitted, if_true, List.map_cons]

theorem filter_level_lines (notices : List Notice) (level : Level) :
    (lines notices session logging).filter (fun line => line.level = level) =
      lines (notices.filter fun notice => notice.level = level) session logging := by
  simp only [lines, List.filter_map, List.filter_filter, Function.comp_def, line, Bool.and_comm]

theorem nodup_context (notice : Notice) : (notice.context.map Prod.fst).Nodup := by
  cases notice <;> simp [context, Draft.rejectionContext]

/-- The entry of a notice. -/
theorem entry_eq (notice : Notice) (time : Int) :
    (Logger.forComponent notice.component).entry notice.level time notice.message notice.context =
      ⟨notice.level, notice.message, time, some notice.component, notice.context⟩ := by
  have merged : Members.merge [] notice.context = notice.context :=
    Members.ofList_eq_self notice.nodup_context
  exact congrArg (Entry.mk notice.level notice.message time (some notice.component)) merged

theorem lines_post (notice : Notice) (session : Session) : (notice.post session).lines =
    (Logger.forComponent notice.component).linesIn session notice.level notice.message
      notice.context := by
  rw [post, Logger.write_run]

/-- With a date, a notice is one line if it is let through. -/
theorem linesIn_eq (found : session.configuration = .ok config)
    (dated : IsDatable session.wallTime) (notice : Notice) :
    (Logger.forComponent notice.component).linesIn session notice.level notice.message
      notice.context = lines [notice] session config.logging := by
  by_cases admitted : config.logging.admits notice.level = true
  · rw [Logger.linesIn_of_datable _ found admitted dated, entry_eq, lines_cons_of_admits admitted]
    rfl
  · simp only [Logger.linesIn, found]
    rw [if_neg fun written => admitted written.1]
    simp only [lines, List.filter_cons, if_neg admitted, List.filter_nil, List.map_nil]

end Log.Notice

/-! ### Actions -/

/-- An action gives a value, leaves the session as it is and writes the lines of these notices. -/
def Action.Tells (action : Action α) (session : Session) (config : Config) (value : α)
    (notices : List Log.Notice) : Prop :=
  action session = ⟨.ok value, session, Log.Notice.lines notices session config.logging⟩

namespace Action.Tells

variable {session : Session} {config : Config} {action : Action α} {value : α}
  {notices : List Log.Notice}

theorem result_eq (tells : action.Tells session config value notices) :
    (action session).result = .ok value := by
  rw [tells]

theorem lines_eq (tells : action.Tells session config value notices) :
    (action session).lines = Log.Notice.lines notices session config.logging := by
  rw [tells]

theorem pure (value : α) : (Pure.pure value : Action α).Tells session config value [] := rfl

theorem bind {next : α → Action β} {result : β} {others : List Log.Notice}
    (tells : action.Tells session config value notices)
    (nextTells : (next value).Tells session config result others) :
    (action >>= next).Tells session config result (notices ++ others) := by
  rw [Tells, bind_run_of_ok tells, nextTells, Log.Notice.lines_append]
  rfl

theorem bind_silent {next : α → Action β} {result : β}
    (tells : action.Tells session config value notices)
    (silent : (next value).Tells session config result []) :
    (action >>= next).Tells session config result notices := by
  have joined := tells.bind silent
  rwa [List.append_nil] at joined

theorem post (cached : session.config = some config) (dated : Log.IsDatable session.wallTime)
    (notice : Log.Notice) : notice.post.Tells session config () [notice] := by
  have found := Session.configuration_of_config cached
  rw [Tells, Log.Notice.post, Log.Logger.write_run, Session.logFailure?_of_isDatable found dated,
    Session.loaded_of_config cached, Log.Notice.linesIn_eq found dated]

end Action.Tells

end InterfaceAddress
