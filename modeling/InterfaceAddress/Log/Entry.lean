import InterfaceAddress.Json.Writer
import InterfaceAddress.Log.Level
import InterfaceAddress.Log.Timestamp

/-! # Log entries

An entry is written as one line, in JSON or in colour for a terminal. The
context of an entry follows its own members and may replace them; whatever text
it holds is escaped, so that an entry never spans two lines.
-/

namespace InterfaceAddress.Log

/-- One message with its time and context. -/
structure Entry where
  level : Level
  message : String
  time : Int
  component : Option String
  context : Members

namespace Entry

/-- The name under which every entry is written. -/
def service : String := "ifaddr"

/-- The component if it has a name. -/
def namedComponent? (entry : Entry) : Option String := entry.component.filter (· ≠ "")

/-- The members that every entry has. -/
def ownMembers (entry : Entry) : Members :=
  [("level", .text entry.level.name), ("levelNum", .number (.ofNat entry.level.code)),
    ("time", .text (timestamp entry.time)), ("msg", .text entry.message),
    ("service", .text service)] ++
  (entry.namedComponent?.map fun component => ("component", Value.text component)).toList

/-- The line of an entry in JSON. -/
def json (entry : Entry) : String :=
  (Value.object (entry.ownMembers.merge entry.context)).json

/-- The terminal sequence that ends a colour. -/
def plain : String := "\x1b[0m"

/-- The terminal sequence for faint text. -/
def faint : String := "\x1b[2m"

/-- The line of an entry in colour. -/
def pretty (entry : Entry) : String :=
  let component := match entry.namedComponent? with
    | some component => "[" ++ component ++ "] "
    | none => ""
  let context :=
    if entry.context.isEmpty then "" else " " ++ faint ++ (Value.object entry.context).json ++ plain
  faint ++ String.ofList (timeText entry.time) ++ plain ++ " " ++ entry.level.color ++
    entry.level.label ++ plain ++ " " ++ component ++ entry.message ++ context

end Entry

end InterfaceAddress.Log
