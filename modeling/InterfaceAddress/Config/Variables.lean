import InterfaceAddress.Config.Schema
import InterfaceAddress.Text.Blank
import InterfaceAddress.Text.LowerCase

/-! # Environment variables

A variable that is blank counts as unset. Switches accept a few spellings of yes
and no in either case; anything else is passed on as text for the schema to
reject. What no variable sets follows from the deployment, and a deployment that
is not known counts as development.
-/

namespace InterfaceAddress

/-- Environment variables by name. -/
abbrev Variables := List (String × String)

namespace Variables

/-- Set a variable, or remove it where no value is given. -/
def set (environment : Variables) (name : String) (value : Option String) : Variables :=
  let others := environment.filter fun (other, _) => other ≠ name
  match value with
  | some value => (name, value) :: others
  | none => others

/-- The trimmed value of a variable, none if it is unset or blank. -/
def text? (environment : Variables) (name : String) : Option (List Char) :=
  ((environment.lookup name).map fun value => Text.trim value.toList).filter (· ≠ [])

/-- The value of a variable as a configuration member, absent if it is unset or blank. -/
def text (environment : Variables) (name : String) : Value :=
  ((environment.text? name).map fun value => Value.text (String.ofList value)).getD .absent

/-- The value that a text spells: yes, no or itself. -/
def switchValue (text : String) : Value :=
  if text = "true" ∨ text = "1" ∨ text = "yes" then .bool true
  else if text = "false" ∨ text = "0" ∨ text = "no" then .bool false
  else .text text

/-- The value of a switch as a configuration member, absent if it is unset or blank. -/
def switch (environment : Variables) (name : String) : Value :=
  ((environment.text? name).map fun value =>
    switchValue (String.ofList (Text.lower value))).getD .absent

/-- The deployment that the variables name. -/
def deployment (environment : Variables) : Deployment :=
  match Deployment.check (environment.text "NODE_ENV") with
  | .valid deployment => deployment
  | .invalid _ => .development

end Variables

/-- A value, or the other one if it is absent. -/
def Value.orElse (value other : Value) : Value := if value.isAbsent then other else value

namespace Config

/-- The configuration value that the variables describe. -/
def valueOfVariables (environment : Variables) : Value :=
  let base := forDeployment environment.deployment
  .object [
    ("environment", .text base.deployment.name),
    ("logging", .object [
      ("level", (environment.text "IFADDR_LOG_LEVEL").orElse (.text base.logging.level.name)),
      ("pretty", (environment.switch "IFADDR_LOG_PRETTY").orElse (.bool base.logging.pretty)),
      ("enabled", (environment.switch "IFADDR_LOG_ENABLED").orElse (.bool base.logging.enabled))]),
    ("address", .object [
      ("collapseMappedIpv4", (environment.switch "IFADDR_COLLAPSE_MAPPED_IPV4").orElse
        (.bool base.address.collapseMapped))]),
    ("codec", .object [
      ("legacyCompat", (environment.switch "IFADDR_CODEC_LEGACY_COMPAT").orElse
        (.bool base.codec.legacyCompatible))])]

/-- The configuration that the variables describe. -/
def ofVariables (environment : Variables) : Except ConfigError Config :=
  ofValue (valueOfVariables environment)

end Config

end InterfaceAddress
