import InterfaceAddress.Number.Numeral

/-! # Free-form values

Configuration input, interface records and log contexts are data of unknown
shape. A value may be absent, which differs from null: an absent member still
occupies its place in an object but is never written. Objects keep the order of
their members, and merging keeps the first position and the last value of a
repeated name.
-/

namespace InterfaceAddress

/-- An error that is none of the library's own: the conversion of a value to text raised it, or what
receives the lines of the log. -/
structure RaisedError where
  name : String
  message : String
deriving DecidableEq

/-- The error where the text of an object is asked of the object and it has none to give. -/
def RaisedError.noPrimitive : RaisedError :=
  ⟨"TypeError", "Cannot convert object to primitive value"⟩

/-- Data of unknown shape. -/
inductive Value where
  | absent
  | null
  | bool (value : Bool)
  | number (value : Binary64)
  | text (value : String)
  | list (items : List Value)
  | object (members : List (String × Value))
deriving Inhabited

/-- Named values in order. -/
abbrev Members := List (String × Value)

namespace Members

/-- Set a member, in its old position if the name is there and at the end otherwise. -/
def insert : Members → String → Value → Members
  | [], name, value => [(name, value)]
  | (other, old) :: rest, name, value =>
    if other = name then (name, value) :: rest else (other, old) :: insert rest name value

/-- Set every member of the second list in turn. -/
def merge (base overlay : Members) : Members :=
  overlay.foldl (fun members member => members.insert member.1 member.2) base

/-- Members with distinct names from a list in which names may repeat. -/
def ofList (members : Members) : Members := merge [] members

end Members

namespace Value

def isAbsent : Value → Bool
  | absent => true
  | _ => false

/-- The members of an object; anything else has none. -/
def members : Value → Members
  | object members => members
  | _ => []

/-- The member of this name, absent if there is none. -/
def member (value : Value) (name : String) : Value := (value.members.lookup name).getD absent

/-- The text that a value is. -/
def asText? : Value → Option String
  | text value => some value
  | _ => none

/-- The name of the kind of a value. -/
def kind : Value → String
  | absent => "undefined"
  | null => "null"
  | bool _ => "boolean"
  | number value => if value = .nan then "nan" else "number"
  | text _ => "string"
  | list _ => "array"
  | object _ => "object"

mutual

/-- A value in a sentence. Lists are flattened and objects are not opened, but the text of an object
is asked of its member `toString` if it has one, and no data answers. -/
def display : Value → Except RaisedError String
  | absent => .ok "undefined"
  | null => .ok "null"
  | bool value => .ok (if value then "true" else "false")
  | number value => .ok value.text
  | text value => .ok value
  | list items => (displayItems items).map (String.intercalate ",")
  | object members =>
    if "toString" ∈ members.map Prod.fst then .error .noPrimitive else .ok "[object Object]"

/-- The items of a list in a sentence; one that holds nothing leaves its place empty. -/
def displayItems : List Value → Except RaisedError (List String)
  | [] => .ok []
  | item :: rest => do
    let first ← match item with
      | absent => .ok ""
      | null => .ok ""
      | item => item.display
    return first :: (← displayItems rest)

end

end Value

end InterfaceAddress
