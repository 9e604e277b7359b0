import InterfaceAddress.Proofs.Session.Snapshot
import Mathlib

/-! # Results do not depend on the log

In a session that keeps a configuration and whose wall clock shows a date, the
result of an operation is settled by how the configuration reads addresses and
records and by the monotonic clock (`Operation.result_eq_outcome`). Two sessions
that agree on these may differ in their environment, in what they log and where,
and in their wall clock: every operation gives the same value or the same error
in both (`Operation.result_agrees`).
-/

namespace InterfaceAddress

open Wire

variable {session : Session} {config otherConfig : Config}

/-! ### Results -/

/-- The instant that a clock gives when the monotonic clock shows this. -/
def Clock.instant (clock : Clock) (now : Binary64) : Binary64 :=
  match clock with
  | monotonic => now
  | fixed given => given

theorem Clock.read_run (clock : Clock) (session : Session) :
    clock.read session = ⟨.ok (clock.instant session.now), session, []⟩ := by
  cases clock with
  | fixed now => rfl
  | monotonic =>
    have asked : Action.session session = ⟨.ok session, session, []⟩ := rfl
    rw [read, Action.bind_run_of_ok asked, Outcome.after_nil, Action.pure_run, instant]

theorem Action.orFail_result {action : Action (Except ε α)} {given : Except ε α}
    (gave : (action session).result = .ok given) (wrap : ε → Failure) :
    (action.orFail wrap session).result = given.mapError wrap := by
  rw [orFail, bind_run_ok gave]
  cases given <;> rfl

/-- The result of an operation under a configuration, when the monotonic clock shows this. -/
def Operation.outcome (config : Config) (now : Binary64) :
    (operation : Operation) → Except Failure operation.Answer
  | ask question => .ok question.answer
  | readClock clock => .ok (clock.instant now)
  | flags descriptor clock => .ok (descriptor.flagsAt (clock.instant now))
  | preference descriptor clock => .ok (descriptor.isGlobalPreferred (clock.instant now))
  | attempt tried => .ok (tried.outcome config)
  | insist tried => (tried.outcome config).mapError tried.failure
  | snapshot source choice => .ok (Snapshot.conversions config choice source)

/-- With a configuration and a date, nothing else of a session settles a result. -/
theorem Operation.result_eq_outcome (cached : session.config = some config)
    (dated : Log.IsDatable session.wallTime) (operation : Operation) :
    (operation.action session).result = operation.outcome config session.now := by
  cases operation with
  | ask question => rfl
  | readClock clock => exact congrArg Outcome.result (clock.read_run session)
  | flags descriptor clock =>
    exact congrArg Outcome.result (Action.bind_run_of_ok (clock.read_run session))
  | preference descriptor clock =>
    exact congrArg Outcome.result (Action.bind_run_of_ok (clock.read_run session))
  | attempt tried => exact (tried.tells cached dated).result_eq
  | insist tried => exact Action.orFail_result (tried.tells cached dated).result_eq tried.failure
  | snapshot source choice => exact (Snapshot.take_tells cached dated choice source).result_eq

/-! ### Agreement of configurations -/

namespace Attempt

/-- How addresses and records are read is chosen by the caller, or does not matter. -/
def IsExplicit : Attempt → Prop
  | create _ choice | parse _ _ choice | convert _ _ choice | decode _ choice => choice.isSome
  | encode .. => True

theorem outcome_of_isExplicit {attempt : Attempt} (explicit : attempt.IsExplicit) :
    attempt.outcome config = attempt.outcome otherConfig := by
  cases attempt with
  | create _ choice | parse _ _ choice | convert _ _ choice | decode _ choice =>
    obtain ⟨given, rfl⟩ := Option.isSome_iff_exists.mp explicit
    rfl
  | encode => rfl

theorem outcome_congr
    (addresses : config.address.collapseMapped = otherConfig.address.collapseMapped)
    (records : config.codec.legacyCompatible = otherConfig.codec.legacyCompatible)
    (attempt : Attempt) : attempt.outcome config = attempt.outcome otherConfig := by
  cases attempt with
  | create | parse | convert =>
    unfold outcome
    rw [addresses]
  | encode => rfl
  | decode =>
    unfold outcome
    rw [records]

end Attempt

theorem Snapshot.conversions_congr {choice : Option Bool}
    (same : ∀ record : Members, (Attempt.convert (.object record) .empty choice).outcome config =
      (Attempt.convert (.object record) .empty choice).outcome otherConfig)
    (source : InterfaceSource) :
    conversions config choice source = conversions otherConfig choice source := by
  simp only [conversions, conversion, same]

namespace Operation

/-- An operation for which the caller chooses how addresses and records are read. -/
def IsExplicit : Operation → Prop
  | attempt tried | insist tried => tried.IsExplicit
  | snapshot _ choice => choice.isSome
  | _ => False

theorem outcome_of_isExplicit {operation : Operation} (explicit : operation.IsExplicit)
    (now otherNow : Binary64) :
    operation.outcome config now = operation.outcome otherConfig otherNow := by
  cases operation with
  | attempt tried =>
    exact congrArg Except.ok (Attempt.outcome_of_isExplicit explicit)
  | insist tried =>
    exact congrArg (Except.mapError tried.failure) (Attempt.outcome_of_isExplicit explicit)
  | snapshot source choice =>
    refine congrArg Except.ok (Snapshot.conversions_congr (fun record => ?_) source)
    exact Attempt.outcome_of_isExplicit explicit
  | _ => exact explicit.elim

theorem outcome_congr
    (addresses : config.address.collapseMapped = otherConfig.address.collapseMapped)
    (records : config.codec.legacyCompatible = otherConfig.codec.legacyCompatible)
    (operation : Operation) (now : Binary64) :
    operation.outcome config now = operation.outcome otherConfig now := by
  cases operation with
  | ask | readClock | flags | preference => rfl
  | attempt tried => exact congrArg Except.ok (tried.outcome_congr addresses records)
  | insist tried =>
    exact congrArg (Except.mapError tried.failure) (tried.outcome_congr addresses records)
  | snapshot source choice =>
    refine congrArg Except.ok (Snapshot.conversions_congr (fun record => ?_) source)
    exact Attempt.outcome_congr addresses records _

/-- **Results do not depend on the log.** In two sessions that keep configurations and whose wall
clocks show dates, an operation gives the same value or error if the configurations agree on how
addresses and records are read and the monotonic clocks show the same, or if the caller chooses how
addresses and records are read. -/
theorem result_agrees (operation : Operation) (session other : Session)
    (config otherConfig : Config) (cached : session.config = some config)
    (otherCached : other.config = some otherConfig) (dated : Log.IsDatable session.wallTime)
    (otherDated : Log.IsDatable other.wallTime) :
    (config.address.collapseMapped = otherConfig.address.collapseMapped →
      config.codec.legacyCompatible = otherConfig.codec.legacyCompatible →
      session.monotonicTime = other.monotonicTime →
        (operation.action session).result = (operation.action other).result) ∧
    (operation.IsExplicit →
      (operation.action session).result = (operation.action other).result) := by
  rw [operation.result_eq_outcome cached dated, operation.result_eq_outcome otherCached otherDated]
  constructor
  · intro addresses records times
    rw [Session.now, Session.now, times]
    exact operation.outcome_congr addresses records _
  · intro explicit
    exact outcome_of_isExplicit explicit _ _

/-- A test without a log agrees with production, which writes to another sink at another time.
Decoding agrees even with a session that reads records compatibly. -/
theorem result_agrees_silent :
    let production : Config := .forDeployment .production
    let test : Config := .forDeployment .test
    let session : Session := ⟨[], some production, 0, 0, .capture⟩
    let other : Session := ⟨[("NODE_ENV", "test")], some test, 1700000000123, 0, .console⟩
    let compatible : Session := { other with config := some { test with codec := ⟨true⟩ } }
    let parse : Operation := .attempt (.parse "192.0.2.1" .empty none)
    let decode : Operation := .attempt (.decode [4] (some false))
    (parse.action session).result = (parse.action other).result ∧
    (decode.action session).result = (decode.action compatible).result := by
  intro production test session other compatible parse decode
  have dated : Log.IsDatable session.wallTime := by decide
  have otherDated : Log.IsDatable other.wallTime := by decide
  have parses := result_agrees parse session other production test rfl rfl dated otherDated
  have decodes := result_agrees decode session compatible production _ rfl rfl dated otherDated
  exact ⟨parses.1 rfl rfl rfl, decodes.2 rfl⟩

end Operation

end InterfaceAddress
