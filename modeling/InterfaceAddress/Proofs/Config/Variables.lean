import InterfaceAddress.Proofs.Config.Validation
import InterfaceAddress.Proofs.Session.Cache
import Mathlib

/-! # What the environment variables settle

A variable that is set and not blank gives the value that its trimmed text
spells, and is unusable if it spells none. The spellings of a field are a table,
apart from the tests that tell them. The configuration is loaded exactly if no
variable of a setting is unusable (`Session.settings_of_variables`).
-/

namespace InterfaceAddress

namespace Variables

/-- A variable is set, and this is its text without the blanks around it. -/
def Holds (environment : Variables) (name : String) (text : List Char) : Prop :=
  ∃ value, environment.lookup name = some value ∧ Text.trim value.toList = text ∧ text ≠ []

theorem text?_eq_some_iff {environment : Variables} {name : String} {text : List Char} :
    environment.text? name = some text ↔ environment.Holds name text := by
  simp only [text?, Holds, Option.filter_eq_some_iff, Option.map_eq_some_iff, decide_eq_true_eq]
  constructor
  · rintro ⟨⟨value, found, trimmed⟩, given⟩
    exact ⟨value, found, trimmed, given⟩
  · rintro ⟨value, found, trimmed, given⟩
    exact ⟨⟨value, found, trimmed⟩, given⟩

theorem text_of_holds {environment : Variables} {name : String} {text : List Char}
    (holds : environment.Holds name text) : environment.text name = .text (String.ofList text) := by
  simp only [Variables.text, text?_eq_some_iff.mpr holds, Option.map_some, Option.getD_some]

/-- The values of a switch behind the texts that spell them. -/
def switchSpellings : List (String × Value) :=
  [("true", .bool true), ("1", .bool true), ("yes", .bool true), ("false", .bool false),
    ("0", .bool false), ("no", .bool false)]

theorem exists_bool_of_mem {text : String} {value : Value}
    (spells : (text, value) ∈ switchSpellings) : ∃ switch, value = .bool switch := by
  simp only [switchSpellings, List.mem_cons, Prod.mk.injEq, List.not_mem_nil, or_false] at spells
  rcases spells with ⟨-, is⟩ | ⟨-, is⟩ | ⟨-, is⟩ | ⟨-, is⟩ | ⟨-, is⟩ | ⟨-, is⟩ <;> exact ⟨_, is⟩

theorem switchValue_of_mem {text : String} {value : Value}
    (spells : (text, value) ∈ switchSpellings) : switchValue text = value := by
  simp only [switchSpellings, List.mem_cons, Prod.mk.injEq, List.not_mem_nil, or_false] at spells
  rcases spells with ⟨rfl, rfl⟩ | ⟨rfl, rfl⟩ | ⟨rfl, rfl⟩ | ⟨rfl, rfl⟩ | ⟨rfl, rfl⟩ | ⟨rfl, rfl⟩ <;>
    rfl

theorem switchValue_of_not_mem {text : String} (spells : text ∉ switchSpellings.map Prod.fst) :
    switchValue text = .text text := by
  simp only [switchSpellings, List.map_cons, List.map_nil, List.mem_cons, List.not_mem_nil,
    or_false, not_or] at spells
  obtain ⟨isTrue, isOne, isYes, isFalse, isZero, isNo⟩ := spells
  simp only [switchValue, isTrue, isOne, isYes, isFalse, isZero, isNo, or_self, if_false]

end Variables

namespace Config.Field

/-- The environment variable of a field. -/
def variableName : Field → String
  | deployment => "NODE_ENV"
  | level => "IFADDR_LOG_LEVEL"
  | pretty => "IFADDR_LOG_PRETTY"
  | enabled => "IFADDR_LOG_ENABLED"
  | collapseMapped => "IFADDR_COLLAPSE_MAPPED_IPV4"
  | legacyCompatible => "IFADDR_CODEC_LEGACY_COMPAT"

/-- The fields of the sections, in the order of the schema. -/
def settings : List Field := Section.all.flatMap Section.fields

/-- The values of a field behind the texts that spell them. -/
def spellings (field : Field) : List (String × Value) :=
  match field.names? with
  | some names => names.map fun name => (name, .text name)
  | none => Variables.switchSpellings

/-- A text in the case in which it is compared. Only switches are read in either case. -/
def folded (field : Field) (text : List Char) : String :=
  match field.names? with
  | some _ => String.ofList text
  | none => String.ofList (Text.lower text)

def Spells (field : Field) (text : List Char) (value : Value) : Prop :=
  (field.folded text, value) ∈ field.spellings

/-- The variable of a field spells this value. -/
def IsGiven (environment : Variables) (field : Field) (value : Value) : Prop :=
  ∃ text, environment.Holds field.variableName text ∧ field.Spells text value

/-- The variable of a field is set and not blank, and spells no value. -/
def IsUnusable (environment : Variables) (field : Field) : Prop :=
  ∃ text, environment.Holds field.variableName text ∧ ∀ value, ¬ field.Spells text value

/-- The entry about the variable of a field: its path and what is said about its text. -/
def variableEntry (environment : Variables) (field : Field) : String :=
  String.intercalate "." field.path ++ ": " ++
    field.complaint (environment.text field.variableName)

/-! ### Reading a variable -/

/-- What is read from the variable of a field, absent if it is unset or blank. -/
def told (environment : Variables) (field : Field) : Value :=
  match field.names? with
  | some _ => environment.text field.variableName
  | none => environment.switch field.variableName

variable {environment : Variables} {field : Field} {text : List Char} {value : Value}

theorem spells_iff_of_names {names : List String} (named : field.names? = some names) :
    field.Spells text value ↔ String.ofList text ∈ names ∧ value = .text (String.ofList text) := by
  simp only [Spells, spellings, folded, named, List.mem_map, Prod.mk.injEq]
  constructor
  · rintro ⟨name, known, rfl, rfl⟩
    exact ⟨known, rfl⟩
  · rintro ⟨known, rfl⟩
    exact ⟨_, known, rfl, rfl⟩

theorem spells_iff_of_switch (isSwitch : field.names? = none) : field.Spells text value ↔
    (String.ofList (Text.lower text), value) ∈ Variables.switchSpellings := by
  simp only [Spells, spellings, folded, isSwitch]

theorem told_of_names {names : List String} (named : field.names? = some names)
    (holds : environment.Holds field.variableName text) :
    field.told environment = .text (String.ofList text) := by
  rw [told, named]
  exact Variables.text_of_holds holds

theorem told_of_switch (isSwitch : field.names? = none)
    (holds : environment.Holds field.variableName text) :
    field.told environment = Variables.switchValue (String.ofList (Text.lower text)) := by
  simp only [told, isSwitch, Variables.switch, Variables.text?_eq_some_iff.mpr holds,
    Option.map_some, Option.getD_some]

theorem fits_of_spells (spells : field.Spells text value) : field.fits value = true := by
  cases named : field.names? with
  | some names =>
    obtain ⟨known, rfl⟩ := (spells_iff_of_names named).mp spells
    simpa [fits, named] using known
  | none =>
    obtain ⟨switch, rfl⟩ :=
      Variables.exists_bool_of_mem ((spells_iff_of_switch named).mp spells)
    simp only [fits, named]

theorem fits_of_isGiven (given : field.IsGiven environment value) : field.fits value = true := by
  obtain ⟨text, -, spells⟩ := given
  exact fits_of_spells spells

theorem isAbsent_of_fits (fits : field.fits value = true) : value.isAbsent = false := by
  cases value with
  | absent =>
    unfold Field.fits at fits
    split at fits <;> contradiction
  | null | bool | number | text | list | object => rfl

theorem told_of_isGiven (given : field.IsGiven environment value) :
    field.told environment = value := by
  obtain ⟨text, holds, spells⟩ := given
  cases named : field.names? with
  | some names =>
    rw [told_of_names named holds, ((spells_iff_of_names named).mp spells).2]
  | none =>
    rw [told_of_switch named holds]
    exact Variables.switchValue_of_mem ((spells_iff_of_switch named).mp spells)

/-- A text that spells no value is passed on, at most in another case. -/
theorem told_of_isUnusable (unusable : field.IsUnusable environment) :
    field.Refuses (field.told environment) ∧ field.complaint (field.told environment) =
      field.complaint (environment.text field.variableName) := by
  obtain ⟨text, holds, spells⟩ := unusable
  rw [Variables.text_of_holds holds]
  cases named : field.names? with
  | some names =>
    have unknown : String.ofList text ∉ names := fun known =>
      spells _ ((spells_iff_of_names named).mpr ⟨known, rfl⟩)
    rw [told_of_names named holds]
    exact ⟨⟨rfl, by simp [fits, named, unknown]⟩, rfl⟩
  | none =>
    simp only [spells_iff_of_switch named] at spells
    have unknown : String.ofList (Text.lower text) ∉ Variables.switchSpellings.map Prod.fst := by
      simpa using spells
    rw [told_of_switch named holds, Variables.switchValue_of_not_mem unknown]
    refine ⟨⟨rfl, by simp only [fits, named]⟩, ?_⟩
    simp only [complaint, named]
    rfl

/-- A variable is unset or blank, gives a value or is unusable. -/
theorem told_cases (environment : Variables) (field : Field) :
    field.told environment = .absent ∨ (∃ value, field.IsGiven environment value) ∨
      field.IsUnusable environment := by
  cases read : environment.text? field.variableName with
  | none =>
    left
    unfold told
    split <;> simp only [Variables.text, Variables.switch, read, Option.map_none, Option.getD_none]
  | some text =>
    have holds := Variables.text?_eq_some_iff.mp read
    by_cases spelled : ∃ value, field.Spells text value
    · obtain ⟨value, spells⟩ := spelled
      exact .inr (.inl ⟨value, text, holds, spells⟩)
    · exact .inr (.inr ⟨text, holds, not_exists.mp spelled⟩)

theorem isUnusable_iff : field.IsUnusable environment ↔ field.Refuses (field.told environment) := by
  refine ⟨fun unusable => (told_of_isUnusable unusable).1, fun refuses => ?_⟩
  rcases told_cases environment field with silent | ⟨value, given⟩ | unusable
  · rw [silent] at refuses
    cases refuses.1
  · rw [told_of_isGiven given] at refuses
    cases (fits_of_isGiven given).symm.trans refuses.2
  · exact unusable

instance (environment : Variables) (field : Field) : Decidable (field.IsUnusable environment) :=
  decidable_of_iff _ isUnusable_iff.symm

end Config.Field

/-! ### The deployment -/

namespace Variables

open Config

variable {environment : Variables}

/-- A value that is there is checked as one of the names. -/
theorem check_deployment {value : Value} (present : value.isAbsent = false) :
    (Deployment.check value).Gives (Field.deployment.issues [] value)
      fun deployment => .text deployment.name = value := by
  have finds := Field.deployment.oneOf_finds rfl Deployment.development value
  cases value with
  | absent => cases present
  | null | bool | number | text | list | object => exact finds

theorem deployment_of_isGiven {value : Value} (given : Field.deployment.IsGiven environment value) :
    .text environment.deployment.name = value := by
  have told : environment.text "NODE_ENV" = value := Field.told_of_isGiven given
  have fits := Field.fits_of_isGiven given
  have finds := check_deployment (Field.isAbsent_of_fits fits)
  rw [Field.issues_of_fits fits] at finds
  rw [deployment, told]
  cases checked : Deployment.check value with
  | valid deployment =>
    rw [checked] at finds
    exact finds.2
  | invalid issues =>
    rw [checked] at finds
    exact absurd rfl finds.1

theorem deployment_of_not_isGiven
    (unnamed : ∀ value, ¬ Field.deployment.IsGiven environment value) :
    environment.deployment = .development := by
  rw [deployment]
  rcases Field.told_cases environment .deployment with silent | ⟨value, given⟩ | unusable
  · rw [show environment.text "NODE_ENV" = .absent from silent]
    rfl
  · exact absurd given (unnamed value)
  · have refuses : Field.deployment.Refuses (environment.text "NODE_ENV") :=
      (Field.told_of_isUnusable unusable).1
    have finds := check_deployment refuses.1
    rw [Field.issues_of_refuses refuses] at finds
    cases checked : Deployment.check (environment.text "NODE_ENV") with
    | valid deployment =>
      rw [checked] at finds
      cases finds.1
    | invalid issues => rfl

end Variables

/-! ### The configuration -/

namespace Config

variable {environment : Variables}

theorem isAbsent_datum (config : Config) (field : Field) :
    (config.datum field).isAbsent = false := by
  cases field <;> rfl

theorem isAbsent_orElse_datum (value : Value) (config : Config) (field : Field) :
    (value.orElse (config.datum field)).isAbsent = false := by
  unfold Value.orElse
  split
  case isTrue => exact config.isAbsent_datum field
  case isFalse present => exact eq_false_of_ne_true present

/-- A configuration is nowhere at fault. -/
theorem not_isAtFault_toValue (config : Config) (position : Position) :
    ¬ position.IsAtFault config.toValue := by
  rcases ofValue_cases config.toValue with ⟨none, -⟩ | ⟨-, -, refused⟩
  · exact faults_eq_nil_iff.mp none position
  · cases config.ofValue_toValue.symm.trans refused

theorem eq_deployment_of_not_setting {field : Field} (other : field ∉ Field.settings) :
    field = .deployment := by
  cases field with
  | deployment => rfl
  | level | pretty | enabled | collapseMapped | legacyCompatible => exact absurd (by decide) other

theorem follow_valueOfVariables {field : Field} (setting : field ∈ Field.settings) :
    (valueOfVariables environment).follow field.path =
      (field.told environment).orElse ((forDeployment environment.deployment).datum field) := by
  cases field with
  | deployment => exact absurd setting (by decide)
  | level | pretty | enabled | collapseMapped | legacyCompatible => rfl

theorem isAtFault_valueOfVariables {field : Field} (setting : field ∈ Field.settings) :
    (Position.field field).IsAtFault (valueOfVariables environment) ↔
      field.IsUnusable environment := by
  rw [Position.IsAtFault, follow_valueOfVariables setting, Field.isUnusable_iff, Value.orElse]
  split
  case isTrue silent =>
    refine iff_of_false ?_ fun refuses => ?_
    · exact (forDeployment environment.deployment).not_isAtFault_toValue (.field field)
    · rw [refuses.1] at silent
      cases silent
  case isFalse => rfl

/-- Only settings can be at fault. -/
theorem setting_of_isAtFault {position : Position}
    (fault : position.IsAtFault (valueOfVariables environment)) :
    position ∈ Field.settings.map Position.field := by
  cases position with
  | root => exact absurd ⟨_, rfl⟩ fault
  | part asked => cases asked <;> exact absurd ⟨_, rfl⟩ fault.2
  | field asked =>
    cases asked with
    | deployment =>
      exact absurd fault
        ((forDeployment environment.deployment).not_isAtFault_toValue (.field .deployment))
    | level | pretty | enabled | collapseMapped | legacyCompatible => decide

theorem faults_valueOfVariables (environment : Variables) : faults (valueOfVariables environment) =
    (Field.settings.filter fun field => field.IsUnusable environment).map Position.field := by
  let value := valueOfVariables environment
  have settings : Position.all.filter (· ∈ Field.settings.map Position.field) =
      Field.settings.map Position.field := by decide
  calc faults value
    _ = Position.all.filter fun position =>
        position.IsAtFault value && position ∈ Field.settings.map Position.field := by
      refine List.filter_congr fun position _ => ?_
      by_cases fault : position.IsAtFault value
      · simp only [fault, setting_of_isAtFault fault, decide_true, Bool.and_self]
      · simp only [fault, decide_false, Bool.false_and]
    _ = (Field.settings.map Position.field).filter fun position => position.IsAtFault value := by
      rw [← List.filter_filter, settings]
    _ = (Field.settings.filter fun field => (Position.field field).IsAtFault value).map
        Position.field := by rw [List.filter_map]; rfl
    _ = _ := by
      rw [List.filter_congr fun field setting =>
        decide_eq_decide.mpr (isAtFault_valueOfVariables setting)]

theorem entry_valueOfVariables {field : Field} (setting : field ∈ Field.settings)
    (unusable : field.IsUnusable environment) :
    (Position.field field).entry (valueOfVariables environment) =
      field.variableEntry environment := by
  obtain ⟨refuses, complaint⟩ := Field.told_of_isUnusable unusable
  change _ ++ field.complaint ((valueOfVariables environment).follow field.path) = _
  rw [follow_valueOfVariables setting, Value.orElse_of_present refuses.1, complaint]
  rfl

/-- A configuration holds what the variables give and otherwise what follows from the deployment
that they name. -/
structure IsToldBy (config : Config) (environment : Variables) : Prop where
  given : ∀ (field : Field) (value : Value), field.IsGiven environment value →
    config.datum field = value
  unnamed : (∀ value, ¬ Field.deployment.IsGiven environment value) →
    config.deployment = .development
  left : ∀ field ∈ Field.settings, (∀ value, ¬ field.IsGiven environment value) →
    config.datum field = (forDeployment config.deployment).datum field

/-- What is read from usable variables is what they tell. -/
theorem isToldBy_of_filled {config : Config}
    (usable : ∀ field ∈ Field.settings, ¬ field.IsUnusable environment)
    (filled : ∀ field, config.datum field =
      ((valueOfVariables environment).follow field.path).orElse (standard.datum field)) :
    config.IsToldBy environment := by
  have deployment : config.deployment = environment.deployment :=
    Deployment.name_injective (Value.text.inj (filled .deployment))
  have told (field) (setting : field ∈ Field.settings) : config.datum field =
      (field.told environment).orElse ((forDeployment environment.deployment).datum field) := by
    rw [filled, follow_valueOfVariables setting, Value.orElse_of_present (isAbsent_orElse_datum ..)]
  constructor
  case given =>
    intro field value given
    by_cases setting : field ∈ Field.settings
    · rw [told field setting, Field.told_of_isGiven given,
        Value.orElse_of_present (Field.isAbsent_of_fits (Field.fits_of_isGiven given))]
    · cases eq_deployment_of_not_setting setting
      rw [← Variables.deployment_of_isGiven given, ← deployment]
      rfl
  case unnamed =>
    intro unnamed
    rw [deployment, Variables.deployment_of_not_isGiven unnamed]
  case left =>
    intro field setting silent
    have unset : field.told environment = .absent := by
      rcases Field.told_cases environment field with unset | ⟨value, given⟩ | unusable
      · exact unset
      · exact absurd given (silent value)
      · exact absurd unusable (usable field setting)
    rw [told field setting, unset, deployment]
    rfl

theorem entries_valueOfVariables (environment : Variables) :
    (faults (valueOfVariables environment)).map (·.entry (valueOfVariables environment)) =
      (Field.settings.filter fun field => field.IsUnusable environment).map
        (Field.variableEntry environment) := by
  rw [faults_valueOfVariables, List.map_map]
  refine List.map_congr_left fun field listed => ?_
  obtain ⟨setting, unusable⟩ := List.mem_filter.mp listed
  exact entry_valueOfVariables setting (of_decide_eq_true unusable)

/-- The variables are read field by field, or the unusable ones are listed. -/
theorem ofVariables_cases (environment : Variables) :
    ((∀ field ∈ Field.settings, ¬ field.IsUnusable environment) ∧
      ∃ config, ofVariables environment = .ok config ∧ config.IsToldBy environment) ∨
    ((∃ field ∈ Field.settings, field.IsUnusable environment) ∧ ofVariables environment =
      .error ⟨(Field.settings.filter fun field => field.IsUnusable environment).map
        (Field.variableEntry environment)⟩) := by
  have none_iff : faults (valueOfVariables environment) = [] ↔
      ∀ field ∈ Field.settings, ¬ field.IsUnusable environment := by
    rw [faults_valueOfVariables, List.map_eq_nil_iff, List.filter_eq_nil_iff]
    simp only [decide_eq_true_eq]
  rcases ofValue_cases (valueOfVariables environment) with
    ⟨none, config, accepted, filled⟩ | ⟨some, -, refused⟩
  · have usable := none_iff.mp none
    exact .inl ⟨usable, config, accepted, isToldBy_of_filled usable filled⟩
  · refine .inr ⟨by simpa using mt none_iff.mpr some, ?_⟩
    rw [ofVariables, refused, entries_valueOfVariables]

end Config

/-- **The environment variables settle the configuration.** A session without a configuration loads
one exactly if no variable of a setting is unusable, whatever the deployment is called. It then
keeps a configuration with every value that is given and what follows from the deployment for the
rest. Otherwise it lists each unusable variable once, in the order of the schema and under its
path, and stays as it was. -/
theorem Session.settings_of_variables (session : Session) (unloaded : session.config = none) :
    ((∃ config, (settings session).result = .ok config) ↔
      ∀ field ∈ Config.Field.settings, ¬ field.IsUnusable session.environment) ∧
    (∀ config, (settings session).result = .ok config →
      config.IsToldBy session.environment ∧
      (settings session).session = { session with config := some config }) ∧
    (∀ failure, (settings session).result = .error failure →
      failure = .config ⟨(Config.Field.settings.filter fun field =>
        field.IsUnusable session.environment).map
          (Config.Field.variableEntry session.environment)⟩ ∧
      (settings session).session = session) := by
  have loads : session.configuration = Config.ofVariables session.environment := by
    rw [configuration, unloaded]
  rcases Config.ofVariables_cases session.environment with
    ⟨usable, config, read, told⟩ | ⟨⟨field, setting, unusable⟩, failed⟩
  · rw [read] at loads
    rw [settings_run_of_ok loads]
    refine ⟨iff_of_true ⟨config, rfl⟩ usable, ?_, ?_⟩
    · rintro _ ⟨⟩
      exact ⟨told, by rw [loaded, loads]; rfl⟩
    · rintro _ ⟨⟩
  · rw [failed] at loads
    rw [settings_run_of_error loads]
    refine ⟨iff_of_false ?_ fun usable => usable field setting unusable, ?_, ?_⟩
    · rintro ⟨_, ⟨⟩⟩
    · rintro _ ⟨⟩
    · rintro _ ⟨⟩
      exact ⟨rfl, loaded_of_configuration_error loads⟩

/-- Two unusable variables between usable ones. -/
theorem Session.settings_of_variables_mixed :
    let session : Session := { Session.initial with environment := [("NODE_ENV", " production "),
      ("IFADDR_CODEC_LEGACY_COMPAT", "maybe"), ("IFADDR_LOG_LEVEL", " Warn"),
      ("IFADDR_LOG_ENABLED", "\tNO"), ("IFADDR_LOG_PRETTY", " ")] }
    (settings session).result =
      .error (.config ⟨["logging.level: Invalid enum value. " ++
        "Expected 'trace' | 'debug' | 'info' | 'warn' | 'error' | 'fatal', received 'Warn'",
        "codec.legacyCompat: Expected boolean, received string"]⟩) := by
  intro session
  have settled := settings_of_variables session rfl
  cases ran : (settings session).result with
  | ok config => exact absurd (settled.1.mp ⟨config, ran⟩ .level (by decide)) (by decide +kernel)
  | error failure =>
    rw [(settled.2.2 failure ran).1]
    decide +kernel

end InterfaceAddress
