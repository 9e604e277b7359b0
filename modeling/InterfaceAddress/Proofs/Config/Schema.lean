import InterfaceAddress.Config.Schema
import Mathlib

/-! # What the schema accepts

A configuration written as a value is accepted by the schema and read back
unchanged (`Config.ofValue_toValue`). Every name of a deployment or a level is
read as what it names, and every section is read back by its own check.
-/

namespace InterfaceAddress

/-- A member that is present is checked as it is. -/
theorem Check.orDefault_member_of_valid (check : Check α) (default : α) (value : Value)
    (name : String) {found : Value} {result : α} (is : value.member name = found)
    (present : found ≠ .absent) (checked : check found = .valid result) :
    (check.orDefault default).member name value = .valid result := by
  rw [Check.member, is, orDefault, checked]
  · rfl
  · exact present

theorem Deployment.check_name (deployment : Deployment) :
    Deployment.check (.text deployment.name) = .valid deployment := by
  cases deployment <;> rfl

theorem Log.Level.check_name (level : Level) :
    Level.check (.text level.name) = .valid level := by
  cases level <;> rfl

theorem LoggingConfig.check_toMembers (config : LoggingConfig) :
    LoggingConfig.check (.object config.toMembers) = .valid config := by
  have level := Log.Level.check.orDefault_member_of_valid standard.level
    (.object config.toMembers) "level" rfl nofun config.level.check_name
  have pretty := Check.bool.orDefault_member_of_valid standard.pretty
    (.object config.toMembers) "pretty" rfl nofun rfl
  have enabled := Check.bool.orDefault_member_of_valid standard.enabled
    (.object config.toMembers) "enabled" rfl nofun rfl
  simp only [LoggingConfig.check, Check.object, level, pretty, enabled]
  rfl

theorem AddressConfig.check_toMembers (config : AddressConfig) :
    AddressConfig.check (.object config.toMembers) = .valid config := rfl

theorem CodecConfig.check_toMembers (config : CodecConfig) :
    CodecConfig.check (.object config.toMembers) = .valid config := rfl

namespace Config

theorem check_toValue (config : Config) : check config.toValue = .valid config := by
  have deployment := Deployment.check.orDefault_member_of_valid .development
    config.toValue "environment" rfl nofun config.deployment.check_name
  have logging := LoggingConfig.check.orDefault_member_of_valid .standard
    config.toValue "logging" rfl nofun config.logging.check_toMembers
  have address := AddressConfig.check.orDefault_member_of_valid .standard
    config.toValue "address" rfl nofun config.address.check_toMembers
  have codec := CodecConfig.check.orDefault_member_of_valid .standard
    config.toValue "codec" rfl nofun config.codec.check_toMembers
  simp only [toValue] at deployment logging address codec
  simp only [check, toValue, Check.object, deployment, logging, address, codec]
  rfl

/-- A configuration is accepted and read back unchanged. -/
theorem ofValue_toValue (config : Config) : ofValue config.toValue = .ok config := by
  rw [ofValue, check_toValue]

end Config

end InterfaceAddress
