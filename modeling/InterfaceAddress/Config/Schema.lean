import InterfaceAddress.Config.Basic
import InterfaceAddress.Config.Check

/-! # The schema of a configuration

Every section and every member of a section may be left out. A member that is
present must have its type; null does not count as left out.
-/

namespace InterfaceAddress

def Deployment.check : Check Deployment := .oneOf Deployment.all Deployment.name

def Log.Level.check : Check Log.Level := .oneOf Log.Level.all Log.Level.name

def LoggingConfig.check : Check LoggingConfig := .object fun value =>
  let level := Log.Level.check.orDefault LoggingConfig.standard.level |>.member "level"
  let pretty := Check.bool.orDefault LoggingConfig.standard.pretty |>.member "pretty"
  let enabled := Check.bool.orDefault LoggingConfig.standard.enabled |>.member "enabled"
  ((level value).map LoggingConfig.mk).both (pretty value) |>.both (enabled value)

def AddressConfig.check : Check AddressConfig := .object fun value =>
  let collapse :=
    Check.bool.orDefault AddressConfig.standard.collapseMapped |>.member "collapseMappedIpv4"
  (collapse value).map AddressConfig.mk

def CodecConfig.check : Check CodecConfig := .object fun value =>
  let compatible :=
    Check.bool.orDefault CodecConfig.standard.legacyCompatible |>.member "legacyCompat"
  (compatible value).map CodecConfig.mk

namespace Config

def check : Check Config := .object fun value =>
  let deployment := Deployment.check.orDefault .development |>.member "environment"
  let logging := LoggingConfig.check.orDefault .standard |>.member "logging"
  let address := AddressConfig.check.orDefault .standard |>.member "address"
  let codec := CodecConfig.check.orDefault .standard |>.member "codec"
  ((deployment value).map Config.mk).both (logging value) |>.both (address value)
    |>.both (codec value)

end Config

/-- A value that is no configuration. -/
structure ConfigError where
  issues : List String
deriving DecidableEq

/-- All issues in one sentence. -/
def ConfigError.message (error : ConfigError) : String :=
  "Invalid configuration: " ++ String.intercalate "; " error.issues

namespace Config

/-- The configuration that a value is. -/
def ofValue (value : Value) : Except ConfigError Config :=
  match check value with
  | .valid config => .ok config
  | .invalid issues => .error ⟨issues.map Issue.text⟩

/-- The configuration of a deployment given by name, for which nothing is set. -/
def forDeploymentNamed (name : String) : Except ConfigError Config := do
  let config ← ofValue (.object [("environment", .text name)])
  return forDeployment config.deployment

/-- A configuration value with overrides over it. Sections are merged member by member; a member
that is present and absent of value is left to the schema. -/
def override (base : Config) (overrides : Value) : Value :=
  let deployment := (overrides.members.lookup "environment").getD (.text base.deployment.name)
  let sectionOver (name : String) (members : Members) : Value :=
    .object (members.merge (overrides.member name).members)
  .object [("environment", deployment), ("logging", sectionOver "logging" base.logging.toMembers),
    ("address", sectionOver "address" base.address.toMembers),
    ("codec", sectionOver "codec" base.codec.toMembers)]

end Config

end InterfaceAddress
