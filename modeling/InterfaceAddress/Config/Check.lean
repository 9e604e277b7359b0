import InterfaceAddress.Value.Basic

/-! # Checking values of unknown shape

A check turns a value into data of a known type or lists every issue with its
position. The checks of the members of an object are joined, so that one issue
does not hide another.
-/

namespace InterfaceAddress

structure Issue where
  path : List String
  message : String
deriving DecidableEq

/-- The position, where there is one, and the message. -/
def Issue.text (issue : Issue) : String :=
  let path := String.intercalate "." issue.path
  if path = "" then issue.message else path ++ ": " ++ issue.message

/-- The outcome of a check. -/
inductive Checked (α : Type) where
  | valid (value : α)
  | invalid (issues : List Issue)
deriving DecidableEq

namespace Checked

/-- An outcome with a single issue at the value itself. -/
def issue (message : String) : Checked α := invalid [⟨[], message⟩]

def issues : Checked α → List Issue
  | valid _ => []
  | invalid issues => issues

def map (f : α → β) : Checked α → Checked β
  | valid value => valid (f value)
  | invalid issues => invalid issues

/-- Join two outcomes. The issues of both are kept in order. -/
def both : Checked (α → β) → Checked α → Checked β
  | valid f, outcome => outcome.map f
  | invalid issues, outcome => invalid (issues ++ outcome.issues)

/-- The outcome of a member, whose issues are positioned under its name. -/
def under (name : String) : Checked α → Checked α
  | valid value => valid value
  | invalid issues => invalid (issues.map fun issue => { issue with path := name :: issue.path })

end Checked

abbrev Check (α : Type) := Value → Checked α

namespace Check

/-- Values that are absent stand for the given one. -/
def orDefault (default : α) (check : Check α) : Check α
  | .absent => .valid default
  | value => check value

def bool : Check Bool
  | .bool value => .valid value
  | .absent => .issue "Required"
  | value => .issue ("Expected boolean, received " ++ value.kind)

/-- One of several names. -/
def oneOf (all : List α) (name : α → String) : Check α :=
  let expected := String.intercalate " | " (all.map fun item => "'" ++ name item ++ "'")
  fun
    | .text text =>
      match all.find? fun item => name item = text with
      | some item => .valid item
      | none =>
        .issue ("Invalid enum value. Expected " ++ expected ++ ", received '" ++ text ++ "'")
    | .absent => .issue "Required"
    | value => .issue ("Expected " ++ expected ++ ", received " ++ value.kind)

/-- An object, checked member by member. Members that no check asks for are ignored. -/
def object (check : Check α) : Check α
  | .object members => check (.object members)
  | .absent => .issue "Required"
  | value => .issue ("Expected object, received " ++ value.kind)

def member (name : String) (check : Check α) : Check α := fun value =>
  (check (value.member name)).under name

end Check

end InterfaceAddress
