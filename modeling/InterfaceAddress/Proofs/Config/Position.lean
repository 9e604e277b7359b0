import InterfaceAddress.Config.Variables
import InterfaceAddress.Proofs.Config.Schema
import Mathlib

/-! # Positions in a configuration value

A configuration is asked for at ten positions: the value itself, its three
sections and the six fields. A position is at fault if what stands there has not
the type of the schema (`Config.Position.IsAtFault`); sections and fields may
also be left out. The tables of positions, types and texts stand apart from the
checks that read them.
-/

namespace InterfaceAddress

/-! ### Values inside values -/

namespace Value

/-- The value at a path of member names, absent where the path leads nowhere. -/
def follow (value : Value) (path : List String) : Value := path.foldl member value

def IsObject (value : Value) : Prop := ∃ members, value = .object members

instance (value : Value) : Decidable value.IsObject :=
  match value with
  | .object members => isTrue ⟨members, rfl⟩
  | .absent | .null | .bool _ | .number _ | .text _ | .list _ => isFalse nofun

/-- An object of the members of these names; anything else stays as it is. -/
def only (names : List String) : Value → Value
  | object members => .object (names.map fun name => (name, (object members).member name))
  | value => value

theorem member_only {names : List String} {name : String} (known : name ∈ names) (value : Value) :
    (value.only names).member name = value.member name := by
  cases value with
  | object members =>
    simp only [only, member, Value.members]
    rw [List.lookup_graph _ known, Option.getD_some]
  | absent | null | bool | number | text | list => rfl

theorem member_of_members_eq_nil {value : Value} (empty : value.members = []) (name : String) :
    value.member name = .absent := by
  rw [member, empty, List.lookup_nil, Option.getD_none]

theorem orElse_of_present {value : Value} (present : value.isAbsent = false) (other : Value) :
    value.orElse other = value := by
  rw [orElse, present]
  rfl

end Value

/-! ### Names -/

theorem Deployment.name_injective : Function.Injective Deployment.name := by
  intro first second same
  have read := first.check_name
  rw [same, second.check_name] at read
  cases read
  rfl

theorem Log.Level.name_injective : Function.Injective Log.Level.name := by
  intro first second same
  have read := first.check_name
  rw [same, second.check_name] at read
  cases read
  rfl

namespace Config

/-! ### Sections and fields -/

inductive Section where
  | logging
  | address
  | codec
deriving DecidableEq

/-- A single datum of a configuration. -/
inductive Field where
  | deployment
  | level
  | pretty
  | enabled
  | collapseMapped
  | legacyCompatible
deriving DecidableEq

namespace Section

/-- The sections in the order of the schema. -/
def all : List Section := [logging, address, codec]

def name : Section → String
  | logging => "logging"
  | address => "address"
  | codec => "codec"

/-- The fields of a section in the order of the schema. -/
def fields : Section → List Field
  | logging => [.level, .pretty, .enabled]
  | address => [.collapseMapped]
  | codec => [.legacyCompatible]

end Section

namespace Field

def name : Field → String
  | deployment => "environment"
  | level => "level"
  | pretty => "pretty"
  | enabled => "enabled"
  | collapseMapped => "collapseMappedIpv4"
  | legacyCompatible => "legacyCompat"

/-- The section that a field is in. The deployment is in none. -/
def section? : Field → Option Section
  | deployment => none
  | level | pretty | enabled => some .logging
  | collapseMapped => some .address
  | legacyCompatible => some .codec

def path (field : Field) : List String := (field.section?.map Section.name).toList ++ [field.name]

/-- The names that a field may have. A field without names is a switch. -/
def names? : Field → Option (List String)
  | deployment => some (Deployment.all.map Deployment.name)
  | level => some (Log.Level.all.map Log.Level.name)
  | pretty | enabled | collapseMapped | legacyCompatible => none

/-- Whether a value has the type that the schema gives a field. -/
def fits (field : Field) (value : Value) : Bool :=
  match field.names?, value with
  | some names, .text name => names.contains name
  | none, .bool _ => true
  | _, _ => false

/-- A value that is there and does not fit. -/
def Refuses (field : Field) (value : Value) : Prop :=
  value.isAbsent = false ∧ field.fits value = false

instance (field : Field) (value : Value) : Decidable (field.Refuses value) :=
  inferInstanceAs (Decidable (_ ∧ _))

/-- What is said about a value that does not fit. -/
def complaint (field : Field) (value : Value) : String :=
  match field.names? with
  | none => "Expected boolean, received " ++ value.kind
  | some names =>
    let expected := String.intercalate " | " (names.map fun name => "'" ++ name ++ "'")
    match value with
    | .text text => "Invalid enum value. Expected " ++ expected ++ ", received '" ++ text ++ "'"
    | value => "Expected " ++ expected ++ ", received " ++ value.kind

end Field

/-- The configuration for which nothing is given. -/
def standard : Config := forDeployment .development

/-- The value of a field of a configuration. -/
def datum (config : Config) (field : Field) : Value := config.toValue.follow field.path

/-- The data of a configuration determine it. -/
theorem eq_of_datum {config other : Config}
    (same : ∀ field, config.datum field = other.datum field) : config = other := by
  have deployment := same .deployment
  have level := same .level
  have pretty := same .pretty
  have enabled := same .enabled
  have collapse := same .collapseMapped
  have compatible := same .legacyCompatible
  obtain ⟨first, ⟨firstLevel, _, _⟩, ⟨_⟩, ⟨_⟩⟩ := config
  obtain ⟨second, ⟨secondLevel, _, _⟩, ⟨_⟩, ⟨_⟩⟩ := other
  cases pretty
  cases enabled
  cases collapse
  cases compatible
  have sameDeployment : first = second := Deployment.name_injective (Value.text.inj deployment)
  have sameLevel : firstLevel = secondLevel := Log.Level.name_injective (Value.text.inj level)
  rw [sameDeployment, sameLevel]

/-! ### Positions -/

/-- A position at which a configuration value is asked for a type. -/
inductive Position where
  | root
  | part (part : Section)
  | field (field : Field)
deriving DecidableEq

namespace Position

/-- The positions of a section and of its fields. -/
def ofSection (asked : Section) : List Position := part asked :: asked.fields.map field

/-- The positions in the order of the schema. -/
def all : List Position := root :: field .deployment :: Section.all.flatMap ofSection

def path : Position → List String
  | root => []
  | part asked => [asked.name]
  | field asked => asked.path

/-- What stands at a position has not the type of the schema. A section or a field that is left out
is not at fault, and neither is what stands in something that is no object. -/
def IsAtFault (value : Value) : Position → Prop
  | root => ¬ value.IsObject
  | part asked =>
    (value.member asked.name).isAbsent = false ∧ ¬ (value.member asked.name).IsObject
  | field asked => asked.Refuses (value.follow asked.path)

instance (value : Value) : (position : Position) → Decidable (position.IsAtFault value)
  | root => inferInstanceAs (Decidable (¬ _))
  | part _ => inferInstanceAs (Decidable (_ ∧ _))
  | field asked => inferInstanceAs (Decidable (asked.Refuses _))

/-- What is said about a position that is at fault. -/
def complaint (value : Value) : Position → String
  | root => if value.isAbsent then "Required" else "Expected object, received " ++ value.kind
  | part asked => "Expected object, received " ++ (value.member asked.name).kind
  | field asked => asked.complaint (value.follow asked.path)

theorem complaint_root (value : Value) : root.complaint value =
    if value.isAbsent then "Required" else "Expected object, received " ++ value.kind := rfl

theorem complaint_part (value : Value) (asked : Section) : (part asked).complaint value =
    "Expected object, received " ++ (value.member asked.name).kind := rfl

theorem complaint_field (value : Value) (asked : Field) :
    (field asked).complaint value = asked.complaint (value.follow asked.path) := rfl

/-- The issue of a position that is at fault. -/
def issue (value : Value) (position : Position) : Issue :=
  ⟨position.path, position.complaint value⟩

/-- What is said about a position, behind its path if it is not the root. -/
def entry (value : Value) (position : Position) : String :=
  match position with
  | root => root.complaint value
  | position => String.intercalate "." position.path ++ ": " ++ position.complaint value

theorem text_issue (value : Value) (position : Position) :
    (position.issue value).text = position.entry value := by
  cases position with
  | root => rfl
  | part asked => cases asked <;> rfl
  | field asked => cases asked <;> rfl

theorem mem_all (position : Position) : position ∈ all := by
  cases position with
  | root => decide
  | part asked => cases asked <;> decide
  | field asked => cases asked <;> decide

end Position

/-- A configuration value without the members that the schema does not know. -/
def known : Value → Value
  | .object members =>
    let value : Value := .object members
    .object ((Field.deployment.name, value.member Field.deployment.name) ::
      Section.all.map fun asked =>
        (asked.name, (value.member asked.name).only (asked.fields.map Field.name)))
  | value => value

/-- The positions of a value that are at fault, in the order of the schema. -/
def faults (value : Value) : List Position := Position.all.filter fun position =>
  position.IsAtFault value

theorem faults_eq_nil_iff {value : Value} :
    faults value = [] ↔ ∀ position : Position, ¬ position.IsAtFault value := by
  simp [faults, List.filter_eq_nil_iff, Position.mem_all]

end Config

end InterfaceAddress
