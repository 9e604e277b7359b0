import InterfaceAddress.Descriptor.Notation
import InterfaceAddress.InterfaceRecord
import InterfaceAddress.Session.Logging

/-! # Building descriptors in a session

Drafts are built with the settings of the session where the caller gives none,
and every rejection is logged. The configuration is needed only to read an
address in text and to log a rejection.
-/

namespace InterfaceAddress

namespace Draft

/-- Whether embedded addresses are collapsed. Without a choice of the caller the configuration
decides, which is asked only where the address is a text. -/
def collapsing (draft : Draft) (choice : Option Bool) : Action Bool :=
  match choice, draft.address with
  | some choice, _ => return choice
  | none, .text _ => return (← Session.settings).address.collapseMapped
  | none, _ => return false

/-- The context in which a rejection is logged. -/
def rejectionContext (draft : Draft) (rejection : Rejection) : Members :=
  [("reason", .text rejection.reason.name),
    ("address", (draft.address.text?.map Value.text).getD .null),
    ("prefixLength", (draft.prefixLength.map Value.number).getD .absent)]

/-- Build a descriptor and log a rejection. -/
def tryCreate (draft : Draft) (choice : Option Bool) : Action (Except Rejection Descriptor) := do
  let result := draft.build (← draft.collapsing choice)
  if let .error rejection := result then
    Log.Logger.address.write .debug "Rejected address descriptor" (draft.rejectionContext rejection)
  return result

/-- Build a descriptor and fail on a rejection. -/
def create (draft : Draft) (choice : Option Bool) : Action Descriptor :=
  (draft.tryCreate choice).orFail .rejected

end Draft

namespace Descriptor

/-- Build a descriptor from a text with a slash. -/
def tryParse (text : String) (state : DraftState) (choice : Option Bool) :
    Action (Except Rejection Descriptor) :=
  (Draft.ofText text state).tryCreate choice

/-- Build a descriptor from a text with a slash and fail on a rejection. -/
def parse (text : String) (state : DraftState) (choice : Option Bool) : Action Descriptor :=
  (tryParse text state choice).orFail .rejected

/-- Build a descriptor from a record of the operating system. -/
def tryConvert (record : Value) (state : DraftState) (choice : Option Bool) :
    Action (Except Rejection Descriptor) :=
  match InterfaceRecord.ofValue? record with
  | some record => (record.toDraft state).tryCreate choice
  | none => return .error .recordWithoutAddress

/-- Build a descriptor from a record of the operating system and fail on a rejection. -/
def convert (record : Value) (state : DraftState) (choice : Option Bool) : Action Descriptor :=
  (tryConvert record state choice).orFail .rejected

end Descriptor

/-! ### Snapshots -/

/-- The interfaces of the operating system by name, each with its records. An interface may be
reported without any list of records. -/
abbrev InterfaceSource := List (String × Option (List Members))

namespace Snapshot

/-- The descriptor of one record of an interface, none if it is rejected. Either way an entry is
logged. -/
def ofRecord (interface : String) (choice : Option Bool) (record : Members) :
    Action (Option Descriptor) := do
  match ← Descriptor.tryConvert (.object record) .empty choice with
  | .error rejection =>
    Log.Logger.platform.write .warn "Skipping interface address"
      [("interface", .text interface), ("address", (Value.object record).member "address"),
        ("reason", .text rejection.reason.name)]
    return none
  | .ok descriptor =>
    Log.Logger.platform.write .trace "Interface address"
      [("interface", .text interface), ("address", .text descriptor.text),
        ("scope", .text (Scope.describe descriptor.scope))]
    return some descriptor

/-- The descriptors of the records of an interface that are not rejected. -/
def ofRecords (interface : String) (choice : Option Bool) :
    List Members → Action (List Descriptor)
  | [] => return []
  | record :: rest => do
    let descriptor ← ofRecord interface choice record
    return descriptor.toList ++ (← ofRecords interface choice rest)

def ofInterfaces (choice : Option Bool) :
    InterfaceSource → Action (List (String × List Descriptor))
  | [] => return []
  | (interface, records) :: rest => do
    let descriptors ← ofRecords interface choice (records.getD [])
    return (interface, descriptors) :: (← ofInterfaces choice rest)

/-- The descriptors of all interfaces of a source. An interface without any stays in the
snapshot. -/
def take (source : InterfaceSource) (choice : Option Bool) :
    Action (List (String × List Descriptor)) := do
  let snapshot ← ofInterfaces choice source
  Log.Logger.platform.write .debug "Interface snapshot"
    [("interfaces", .number (.ofNat snapshot.length))]
  return snapshot

end Snapshot

end InterfaceAddress
