import InterfaceAddress.Log.Level
import InterfaceAddress.Value.Basic

/-! # Configuration

A configuration names the kind of deployment and has one section each for
logging, addresses and encoded records.
-/

namespace InterfaceAddress

inductive Deployment where
  | development
  | test
  | production
deriving DecidableEq

namespace Deployment

def all : List Deployment := [development, test, production]

def name : Deployment → String
  | development => "development"
  | test => "test"
  | production => "production"

end Deployment

/-- Which entries are logged and how they are written. -/
structure LoggingConfig where
  level : Log.Level
  pretty : Bool
  enabled : Bool
deriving DecidableEq

/-- How addresses are read. -/
structure AddressConfig where
  collapseMapped : Bool
deriving DecidableEq

/-- How records are decoded. -/
structure CodecConfig where
  legacyCompatible : Bool
deriving DecidableEq

structure Config where
  deployment : Deployment
  logging : LoggingConfig
  address : AddressConfig
  codec : CodecConfig
deriving DecidableEq

/-- Entries from level `info` are written in colour. -/
def LoggingConfig.standard : LoggingConfig := ⟨.info, true, true⟩

/-- Embedded addresses are read as the address they embed. -/
def AddressConfig.standard : AddressConfig := ⟨true⟩

/-- Records are decoded strictly. -/
def CodecConfig.standard : CodecConfig := ⟨false⟩

/-- The configuration of a deployment for which nothing is set: production writes JSON and tests
are silent. -/
def Config.forDeployment (deployment : Deployment) : Config :=
  let logging := match deployment with
    | .development => LoggingConfig.standard
    | .test => { LoggingConfig.standard with enabled := false }
    | .production => { LoggingConfig.standard with pretty := false }
  ⟨deployment, logging, .standard, .standard⟩

/-! ### Configurations as values -/

def LoggingConfig.toMembers (config : LoggingConfig) : Members :=
  [("level", .text config.level.name), ("pretty", .bool config.pretty),
    ("enabled", .bool config.enabled)]

def AddressConfig.toMembers (config : AddressConfig) : Members :=
  [("collapseMappedIpv4", .bool config.collapseMapped)]

def CodecConfig.toMembers (config : CodecConfig) : Members :=
  [("legacyCompat", .bool config.legacyCompatible)]

def Config.toValue (config : Config) : Value :=
  .object [("environment", .text config.deployment.name),
    ("logging", .object config.logging.toMembers), ("address", .object config.address.toMembers),
    ("codec", .object config.codec.toMembers)]

end InterfaceAddress
