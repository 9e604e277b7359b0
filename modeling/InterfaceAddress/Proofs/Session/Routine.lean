import InterfaceAddress.Proofs.Session.Run
import InterfaceAddress.Session.Records
import Mathlib

/-! # What operations are put together from

Building, converting, encoding and decoding do nothing in a session but ask for
settings other than those of the log, read the monotonic clock, write to logs and
fail (`Action.IsRoutine`). What holds of these steps and is kept by a sequence
therefore holds of every operation, and is shown by induction on how it is put
together.
-/

namespace InterfaceAddress

open Wire

/-- An action that is put together from a few steps. The settings of the log are none of its
business, and it never fails for want of a configuration of its own accord. -/
inductive Action.IsRoutine : {α : Type} → Action α → Prop where
  | pure {α : Type} (value : α) : IsRoutine (Pure.pure value : Action α)
  | fail {α : Type} {failure : Failure} (other : ∀ error, failure ≠ .config error) :
      IsRoutine (Action.fail failure : Action α)
  | setting {α : Type} (read : AddressConfig → CodecConfig → α) :
      IsRoutine (do let config ← Session.settings; return read config.address config.codec)
  | clock : IsRoutine (do return (← Action.session).now)
  | write (logger : Log.Logger) (level : Log.Level) (message : String) (context : Members) :
      IsRoutine (logger.write level message context)
  | bind {α β : Type} {first : Action α} {second : α → Action β} (begins : IsRoutine first)
      (goesOn : ∀ value, IsRoutine (second value)) : IsRoutine (first >>= second)

theorem Action.IsRoutine.orFail {action : Action (Except ε α)} {wrap : ε → Failure}
    (routine : action.IsRoutine) (other : ∀ error missing, wrap error ≠ .config missing) :
    (action.orFail wrap).IsRoutine := by
  apply bind routine
  intro result
  cases result with
  | ok value => exact pure value
  | error error => exact fail (other error)

theorem Log.Logger.writeFault_isRoutine (logger : Log.Logger) (level : Log.Level)
    (message : String) (fault : Log.Fault) (context : Members) :
    (logger.writeFault level message fault context).IsRoutine := by
  unfold writeFault
  cases fault.report context with
  | ok reported => exact .write ..
  | error error => exact .fail nofun

/-! ### Descriptors and records -/

theorem Draft.collapsing_isRoutine (draft : Draft) (choice : Option Bool) :
    (draft.collapsing choice).IsRoutine := by
  unfold collapsing
  split
  · exact .pure _
  · exact .setting fun address _ => address.collapseMapped
  · exact .pure _

theorem Draft.tryCreate_isRoutine (draft : Draft) (choice : Option Bool) :
    (draft.tryCreate choice).IsRoutine := by
  apply Action.IsRoutine.bind (draft.collapsing_isRoutine choice)
  intro collapsing
  cases draft.build collapsing with
  | ok descriptor => exact .pure _
  | error rejection => exact .bind (.write ..) fun _ => .pure _

theorem Descriptor.tryConvert_isRoutine (record : Value) (state : DraftState)
    (choice : Option Bool) : (Descriptor.tryConvert record state choice).IsRoutine := by
  unfold tryConvert
  split
  · exact Draft.tryCreate_isRoutine ..
  · exact .pure _

theorem Descriptor.tryEncode_isRoutine (descriptor : Descriptor) (layout : Layout) :
    (descriptor.tryEncode layout).IsRoutine := by
  unfold tryEncode
  cases descriptor.encode layout with
  | ok octets => exact .pure _
  | error error => exact .bind (.write ..) fun _ => .pure _

namespace Wire

theorem decodeFields_isRoutine (octets : List UInt8) (mode : Bool) :
    (decodeFields octets mode).IsRoutine := by
  unfold decodeFields
  cases readDraft octets mode with
  | error error => exact .pure _
  | ok found =>
    apply Action.IsRoutine.bind (found.2.tryCreate_isRoutine none)
    intro result
    cases result <;> exact .pure _

theorem compatible_isRoutine (choice : Option Bool) : (compatible choice).IsRoutine := by
  cases choice with
  | some mode => exact .pure mode
  | none => exact .setting fun _ codec => codec.legacyCompatible

theorem tryDecode_isRoutine (octets : List UInt8) (choice : Option Bool) :
    (tryDecode octets choice).IsRoutine := by
  apply Action.IsRoutine.bind (compatible_isRoutine choice)
  intro mode
  apply Action.IsRoutine.bind (decodeFields_isRoutine octets mode)
  intro result
  cases result with
  | ok value => exact .pure _
  | error error => exact .bind (.write ..) fun _ => .pure _

end Wire

/-! ### Snapshots -/

namespace Snapshot

variable {interface : String} {choice : Option Bool}

theorem ofRecord_isRoutine (record : Members) : (ofRecord interface choice record).IsRoutine := by
  apply Action.IsRoutine.bind (Descriptor.tryConvert_isRoutine ..)
  intro result
  cases result <;> exact .bind (.write ..) fun _ => .pure _

theorem ofRecords_isRoutine (records : List Members) :
    (ofRecords interface choice records).IsRoutine := by
  induction records with
  | nil => exact .pure _
  | cons record rest ih =>
    exact .bind (ofRecord_isRoutine record) fun _ => .bind ih fun _ => .pure _

theorem ofInterfaces_isRoutine (source : InterfaceSource) :
    (ofInterfaces choice source).IsRoutine := by
  induction source with
  | nil => exact .pure _
  | cons first rest ih =>
    exact .bind (ofRecords_isRoutine _) fun _ => .bind ih fun _ => .pure _

theorem take_isRoutine (source : InterfaceSource) : (take source choice).IsRoutine :=
  .bind (ofInterfaces_isRoutine source) fun _ => .bind (.write ..) fun _ => .pure _

end Snapshot

end InterfaceAddress
