import InterfaceAddress.Proofs.Log.Lines
import InterfaceAddress.Proofs.Log.Notice
import InterfaceAddress.Proofs.Session.Attempt
import Mathlib

/-! # What operations tell the log

Operations write nothing but a few notices (`Operation.onlyNotifies`), whatever texts and numbers
they are given. These go into the contexts of the notices, where they are escaped. So every line
has no control characters but those of the terminal sequences for colours, and in JSON it is read
back as the notice that was written (`Operation.lines_unbroken`).
-/

namespace InterfaceAddress

open Wire

/-! ### Notices -/

namespace Log.Notice

variable {notice : Notice} {session : Session} {line : Line}

theorem isAside_context (notice : Notice) : IsAside notice.context where
  distinct := notice.nodup_context
  apart := by cases notice <;> simp [context, Draft.rejectionContext]

theorem context_ne_nil (notice : Notice) : notice.context ≠ [] := by
  cases notice <;> exact List.cons_ne_nil _ _

theorem isPrintable_component (notice : Notice) : Text.IsPrintable notice.component.toList := by
  cases notice <;> rw [component] <;> decide

theorem isPrintable_message (notice : Notice) : Text.IsPrintable notice.message.toList := by
  cases notice <;> rw [message] <;> decide

theorem namedComponent?_eq (notice : Notice) (time : Int) : (Entry.mk notice.level notice.message
    time (some notice.component) notice.context).namedComponent? = some notice.component := by
  cases notice <;> rfl

/-- A notice that is written is one line. In JSON it is read back, in colour it has its control
characters where the colour changes. -/
theorem of_lines_post (written : line ∈ (notice.post session).lines) :
    (notice.post session).lines = [line] ∧ ∃ config, session.configuration = .ok config ∧
      line.level = notice.level ∧
      (config.logging.pretty = false → Text.IsPrintable line.text.toList ∧
        ∃ members, Json.read? line.text = some (.object members) ∧
          Identifies members notice.level notice.component notice.message) ∧
      (config.logging.pretty = true →
        IsColoured line.text notice.level notice.component notice.message) := by
  rw [lines_post, Logger.linesIn] at written ⊢
  cases found : session.configuration with
  | error error =>
    rw [found] at written
    cases written
  | ok config =>
    simp only [found] at written ⊢
    split_ifs at written ⊢
    · obtain rfl := List.mem_singleton.mp written
      refine ⟨rfl, config, rfl, rfl, fun inJson => ?_, fun inColour => ?_⟩
      · rw [entry_eq, LoggingConfig.format, if_neg (Bool.eq_false_iff.mp inJson)]
        exact ⟨Entry.isPrintable_json _,
          Entry.exists_read?_json (notice.namedComponent?_eq _) notice.isAside_context⟩
      · rw [entry_eq, LoggingConfig.format, if_pos inColour]
        apply Entry.isColoured_pretty (notice.namedComponent?_eq _) notice.context_ne_nil
        · exact notice.isPrintable_component
        · exact notice.isPrintable_message
    · cases written

end Log.Notice

/-! ### Operations -/

/-- Whatever the session is, an action writes notices and nothing else. -/
structure Action.OnlyNotifies (action : Action α) : Prop where
  told : ∀ session, ∀ line ∈ (action session).lines, ∃ notice : Log.Notice,
    line ∈ (notice.post session).lines

namespace Action

/-- An action that never writes. -/
theorem OnlyNotifies.of_silent {action : Action α}
    (silent : ∀ session, (action session).lines = []) : action.OnlyNotifies := by
  constructor
  intro session line written
  rw [silent session] at written
  cases written

theorem OnlyNotifies.pure (value : α) : (Pure.pure value : Action α).OnlyNotifies :=
  of_silent fun _ => rfl

theorem OnlyNotifies.fail (failure : Failure) : (Action.fail failure : Action α).OnlyNotifies :=
  of_silent fun _ => rfl

theorem OnlyNotifies.post (notice : Log.Notice) : notice.post.OnlyNotifies :=
  ⟨fun _ _ written => ⟨notice, written⟩⟩

theorem OnlyNotifies.bind {first : Action α} {second : α → Action β} (routine : first.IsRoutine)
    (begins : first.OnlyNotifies) (goesOn : ∀ value, (second value).OnlyNotifies) :
    (first >>= second).OnlyNotifies := by
  constructor
  intro session line written
  cases gave : (first session).result with
  | error failure =>
    rw [bind_run_error gave] at written
    exact begins.told session line written
  | ok value =>
    rw [bind_run_ok gave, List.mem_append] at written
    rcases written with early | late
    · exact begins.told session line early
    · obtain ⟨notice, told⟩ := (goesOn value).told _ line late
      refine ⟨notice, ?_⟩
      rw [Log.Notice.lines_post] at told ⊢
      rwa [Log.Logger.linesIn_of_loads (routine.onlyLoads.loads session)] at told

theorem OnlyNotifies.setting (read : AddressConfig → CodecConfig → α) :
    (do let config ← Session.settings; return read config.address config.codec :
      Action α).OnlyNotifies := by
  apply of_silent
  intro session
  cases found : session.configuration with
  | error error => rw [bind_run_of_error (Session.settings_run_of_error found)]
  | ok config =>
    rw [bind_run_of_ok (Session.settings_run_of_ok found)]
    rfl

theorem OnlyNotifies.orFail {action : Action (Except ε α)} (routine : action.IsRoutine)
    (notifies : action.OnlyNotifies) (wrap : ε → Failure) : (action.orFail wrap).OnlyNotifies := by
  apply bind routine notifies
  intro result
  cases result with
  | ok value => exact pure value
  | error error => exact fail (wrap error)

/-- A notice in front of a value. -/
theorem OnlyNotifies.post_pure (notice : Log.Notice) (value : α) :
    (notice.post >>= fun _ => (Pure.pure value : Action α)).OnlyNotifies :=
  bind (.write ..) (post notice) fun _ => pure value

end Action

theorem Draft.tryCreate_onlyNotifies (draft : Draft) (choice : Option Bool) :
    (draft.tryCreate choice).OnlyNotifies := by
  have asks : (draft.collapsing choice).OnlyNotifies := by
    unfold collapsing
    split
    · exact .pure _
    · exact .setting fun address _ => address.collapseMapped
    · exact .pure _
  apply Action.OnlyNotifies.bind (draft.collapsing_isRoutine choice) asks
  intro collapsing
  cases draft.build collapsing with
  | ok descriptor => exact .pure _
  | error rejection => exact .post_pure (.rejected draft rejection) _

theorem Descriptor.tryConvert_onlyNotifies (record : Value) (state : DraftState)
    (choice : Option Bool) : (tryConvert record state choice).OnlyNotifies := by
  unfold tryConvert
  split
  · exact Draft.tryCreate_onlyNotifies ..
  · exact .pure _

theorem Descriptor.tryEncode_onlyNotifies (descriptor : Descriptor) (layout : Layout) :
    (descriptor.tryEncode layout).OnlyNotifies := by
  unfold tryEncode
  cases descriptor.encode layout with
  | ok octets => exact .pure _
  | error error => exact .post_pure (.notEncoded error) _

theorem Wire.decodeFields_onlyNotifies (octets : List UInt8) (mode : Bool) :
    (decodeFields octets mode).OnlyNotifies := by
  unfold decodeFields
  cases readDraft octets mode with
  | error error => exact .pure _
  | ok found =>
    apply Action.OnlyNotifies.bind (found.2.tryCreate_isRoutine none)
      (found.2.tryCreate_onlyNotifies none)
    intro result
    cases result <;> exact .pure _

theorem Wire.tryDecode_onlyNotifies (octets : List UInt8) (choice : Option Bool) :
    (tryDecode octets choice).OnlyNotifies := by
  have asks : (compatible choice).OnlyNotifies := by
    cases choice with
    | some mode => exact .pure mode
    | none => exact .setting fun _ codec => codec.legacyCompatible
  apply Action.OnlyNotifies.bind (compatible_isRoutine choice) asks
  intro mode
  apply Action.OnlyNotifies.bind (decodeFields_isRoutine octets mode)
    (decodeFields_onlyNotifies octets mode)
  intro result
  cases result with
  | ok value => exact .pure _
  | error error => exact .post_pure (.notDecoded error octets.length mode) _

namespace Snapshot

variable {interface : String} {choice : Option Bool}

theorem ofRecord_onlyNotifies (record : Members) :
    (ofRecord interface choice record).OnlyNotifies := by
  apply Action.OnlyNotifies.bind (Descriptor.tryConvert_isRoutine ..)
    (Descriptor.tryConvert_onlyNotifies ..)
  intro result
  cases result with
  | error rejection => exact .post_pure (.skipped interface record rejection) _
  | ok descriptor => exact .post_pure (.kept interface descriptor) _

theorem ofRecords_onlyNotifies (records : List Members) :
    (ofRecords interface choice records).OnlyNotifies := by
  induction records with
  | nil => exact .pure _
  | cons record rest ih =>
    exact .bind (ofRecord_isRoutine record) (ofRecord_onlyNotifies record) fun _ =>
      .bind (ofRecords_isRoutine rest) ih fun _ => .pure _

theorem ofInterfaces_onlyNotifies (source : InterfaceSource) :
    (ofInterfaces choice source).OnlyNotifies := by
  induction source with
  | nil => exact .pure _
  | cons first rest ih =>
    exact .bind (ofRecords_isRoutine _) (ofRecords_onlyNotifies _) fun _ =>
      .bind (ofInterfaces_isRoutine rest) ih fun _ => .pure _

theorem take_onlyNotifies (source : InterfaceSource) : (take source choice).OnlyNotifies :=
  .bind (ofInterfaces_isRoutine source) (ofInterfaces_onlyNotifies source) fun snapshot =>
    .post_pure (.taken snapshot.length) snapshot

end Snapshot

theorem Attempt.onlyNotifies (attempt : Attempt) : attempt.action.OnlyNotifies := by
  cases attempt with
  | create draft choice => exact draft.tryCreate_onlyNotifies choice
  | parse text state choice => exact Draft.tryCreate_onlyNotifies _ choice
  | convert record state choice => exact Descriptor.tryConvert_onlyNotifies record state choice
  | encode descriptor layout => exact descriptor.tryEncode_onlyNotifies layout
  | decode octets choice => exact tryDecode_onlyNotifies octets choice

/-- Operations write notices and nothing else. -/
theorem Operation.onlyNotifies (operation : Operation) : operation.action.OnlyNotifies := by
  cases operation with
  | ask question => exact .pure question.answer
  | readClock clock => cases clock <;> exact .of_silent fun _ => rfl
  | flags descriptor clock => cases clock <;> exact .of_silent fun _ => rfl
  | preference descriptor clock => cases clock <;> exact .of_silent fun _ => rfl
  | attempt tried => exact tried.onlyNotifies
  | insist tried => exact .orFail tried.isRoutine tried.onlyNotifies tried.failure
  | snapshot source choice => exact Snapshot.take_onlyNotifies source

/-- **Lines are not broken.** Every line that an operation writes, whatever it is given, is that of
one of its notices. In JSON it has no control characters and is read back as an object with the
level, the message, the service and the component of the notice. In colour its only control
characters are those that begin the terminal sequences. -/
theorem Operation.lines_unbroken (operation : Operation) (session : Session) {line : Log.Line}
    (written : line ∈ (operation.action session).lines) :
    ∃ (notice : Log.Notice) (config : Config), (notice.post session).lines = [line] ∧
      session.configuration = .ok config ∧ line.level = notice.level ∧
      (config.logging.pretty = false → Text.IsPrintable line.text.toList ∧
        ∃ members, Json.read? line.text = some (.object members) ∧
          (members.map Prod.fst).Nodup ∧ members.lookup "level" = some (.text notice.level.name) ∧
          members.lookup "msg" = some (.text notice.message) ∧
          members.lookup "service" = some (.text "ifaddr") ∧
          members.lookup "component" = some (.text notice.component)) ∧
      (config.logging.pretty = true →
        Log.IsColoured line.text notice.level notice.component notice.message ∧
          Log.IsControlledByEscapes line.text.toList) := by
  obtain ⟨notice, told⟩ := operation.onlyNotifies.told session line written
  obtain ⟨once, config, found, level, inJson, inColour⟩ := Log.Notice.of_lines_post told
  refine ⟨notice, config, once, found, level, fun isJson => ?_, fun isPretty => ?_⟩
  · obtain ⟨printable, members, read, identifies⟩ := inJson isJson
    exact ⟨printable, members, read, identifies.distinct, identifies.level, identifies.message,
      identifies.service, identifies.component⟩
  · exact ⟨inColour isPretty, (inColour isPretty).isControlledByEscapes⟩

/-- An address that would clear the screen, begin a new line and end a string of JSON. -/
theorem Operation.lines_unbroken_hostile :
    let operation : Operation :=
      .attempt (.create ⟨.text "\x1b[2J\n\"\\", some .nan, .empty⟩ (some false))
    let config (pretty : Bool) : Config :=
      { Config.forDeployment .test with logging := ⟨.debug, pretty, true⟩ }
    let session (pretty : Bool) : Session := ⟨[], some (config pretty), 0, 0, .capture⟩
    let lines (pretty : Bool) : List Log.Line := (operation.action (session pretty)).lines
    (lines false).length = 1 ∧ (lines true).length = 1 ∧
      (∀ line ∈ lines false, Text.IsPrintable line.text.toList ∧
        ∃ members, Json.read? line.text = some (.object members)) ∧
      ∀ line ∈ lines true, Log.IsControlledByEscapes line.text.toList := by
  intro operation config session lines
  refine ⟨by decide +kernel, by decide +kernel, fun line written => ?_, fun line written => ?_⟩
  · obtain ⟨_, _, -, found, -, inJson, -⟩ := lines_unbroken operation (session false) written
    cases found
    obtain ⟨printable, members, read, -⟩ := inJson rfl
    exact ⟨printable, members, read⟩
  · obtain ⟨_, _, -, found, -, -, inColour⟩ :=
      lines_unbroken operation (session true) written
    cases found
    exact (inColour rfl).2

end InterfaceAddress
