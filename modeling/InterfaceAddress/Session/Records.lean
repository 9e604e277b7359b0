import InterfaceAddress.Session.Descriptors

/-! # Encoding and decoding in a session

A record that is refused or not decoded is logged. The configuration decides
whether the reader is compatible where the caller does not.
-/

namespace InterfaceAddress

open Wire

/-- The record of a descriptor; a refusal is logged. -/
def Descriptor.tryEncode (descriptor : Descriptor) (layout : Layout) :
    Action (Except EncodeError (List UInt8)) := do
  let result := descriptor.encode layout
  if let .error error := result then
    Log.Logger.codec.write .warn "Failed to encode address descriptor"
      [("reason", .text error.reason)]
  return result

/-- The record of a descriptor; the action fails on a refusal. -/
def Descriptor.encodeOrFail (descriptor : Descriptor) (layout : Layout) : Action (List UInt8) :=
  (descriptor.tryEncode layout).orFail .notEncoded

namespace Wire

/-- Decode a record in a known mode; a rejection of its fields is logged. -/
def decodeFields (octets : List UInt8) (compatible : Bool) :
    Action (Except DecodeError (Descriptor × Layout)) := do
  match readDraft octets compatible with
  | .error error => return .error error
  | .ok (layout, draft) =>
    match ← draft.tryCreate none with
    | .error rejection => return .error (.invalid rejection)
    | .ok descriptor => return .ok (descriptor, layout)

/-- Whether the reader is compatible. The configuration is asked where the caller has no choice. -/
def compatible (choice : Option Bool) : Action Bool := do
  match choice with
  | some choice => return choice
  | none => return (← Session.settings).codec.legacyCompatible

/-- Decode a record; an error is logged. -/
def tryDecode (octets : List UInt8) (choice : Option Bool) :
    Action (Except DecodeError (Descriptor × Layout)) := do
  let compatible ← compatible choice
  let result ← decodeFields octets compatible
  if let .error error := result then
    Log.Logger.codec.write .warn "Failed to decode address descriptor"
      [("reason", .text error.reason.name), ("length", .number (.ofNat octets.length)),
        ("legacyCompat", .bool compatible)]
  return result

/-- Decode a record; the action fails on an error. -/
def decodeOrFail (octets : List UInt8) (choice : Option Bool) : Action (Descriptor × Layout) :=
  (tryDecode octets choice).orFail .notDecoded

end Wire

end InterfaceAddress
