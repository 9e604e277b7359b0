import InterfaceAddress.Proofs.Config.Variables
import InterfaceAddress.Proofs.Value.Merge
import Mathlib

/-! # Overrides over the deployment

Overrides of the right types are always installed. A datum that is given replaces
that of the deployment, which stays where a datum or a whole section is left out.
A datum that is written down as absent is not left out: it takes the place of that
of the deployment and is then filled in by the schema
(`Session.installOverrides_layers`).
-/

namespace InterfaceAddress

namespace Config

/-! ### What overrides write -/

namespace Field

/-- What a value holds in the place of a field, none if there is no such member. -/
def written? (value : Value) (field : Field) : Option Value :=
  ((field.section?.map fun asked => value.member asked.name).getD value).members.lookup field.name

theorem getD_written? (value : Value) (field : Field) :
    (field.written? value).getD .absent = value.follow field.path := by
  cases field <;> rfl

end Field

/-- Every section of a value has each name once. -/
def HasDistinctNames (value : Value) : Prop :=
  ∀ asked : Section, ((value.member asked.name).members.map Prod.fst).Nodup

variable {overrides : Value}

theorem follow_override (distinct : HasDistinctNames overrides) (base : Config) (field : Field) :
    (base.override overrides).follow field.path =
      (field.written? overrides).getD (base.datum field) := by
  cases field with
  | deployment => rfl
  | level | pretty | enabled => exact Members.member_merge (distinct .logging) rfl
  | collapseMapped => exact Members.member_merge (distinct .address) rfl
  | legacyCompatible => exact Members.member_merge (distinct .codec) rfl

/-- What is put over a configuration is at fault only where the overrides are. -/
theorem not_isAtFault_override (distinct : HasDistinctNames overrides)
    (fitting : ∀ position ≠ Position.root, ¬ position.IsAtFault overrides) (base : Config)
    (position : Position) : ¬ position.IsAtFault (base.override overrides) := by
  cases position with
  | root => exact not_not_intro ⟨_, rfl⟩
  | part asked => cases asked <;> exact fun fault => fault.2 ⟨_, rfl⟩
  | field asked =>
    rw [Position.IsAtFault, follow_override distinct]
    have given := fitting (.field asked) (by rintro ⟨⟩)
    rw [Position.IsAtFault, ← Field.getD_written?] at given
    cases written : asked.written? overrides with
    | none => exact base.not_isAtFault_toValue (.field asked)
    | some value => rwa [written] at given

/-- A configuration holds what overrides give, the schema's own values for what they write down as
absent, and what another configuration holds for the rest. -/
structure Layers (config : Config) (overrides : Value) (base : Config) : Prop where
  given : ∀ (field : Field) (value : Value), field.written? overrides = some value →
    value.isAbsent = false → config.datum field = value
  blank : ∀ field : Field, field.written? overrides = some .absent →
    config.datum field = standard.datum field
  left : ∀ field : Field, field.written? overrides = none →
    config.datum field = base.datum field

theorem ofValue_override (distinct : HasDistinctNames overrides)
    (fitting : ∀ position ≠ Position.root, ¬ position.IsAtFault overrides) (base : Config) :
    ∃ config, ofValue (base.override overrides) = .ok config ∧ config.Layers overrides base := by
  have none := faults_eq_nil_iff.mpr (not_isAtFault_override distinct fitting base)
  rcases ofValue_cases (base.override overrides) with ⟨-, config, accepted, filled⟩ | ⟨some, -⟩
  · simp only [follow_override distinct] at filled
    refine ⟨config, accepted, ?_, ?_, ?_⟩
    · intro field value written present
      rw [filled, written, Option.getD_some, Value.orElse_of_present present]
    · intro field written
      rw [filled, written]
      rfl
    · intro field written
      rw [filled, written, Option.getD_none, Value.orElse_of_present (isAbsent_datum base field)]
  · exact absurd none some

end Config

namespace Session

/-- **Overrides layer over the deployment.** In every session, overrides whose sections and fields
have the types of the schema are installed and kept. A datum that is given is kept as it is, one
that is left out follows from the deployment, and one that is written down as absent is filled in
by the schema, whatever the deployment. -/
theorem installOverrides_layers (session : Session) (overrides : Value)
    (distinct : Config.HasDistinctNames overrides)
    (fitting : ∀ position ≠ Config.Position.root, ¬ position.IsAtFault overrides) :
    ∃ config, installOverrides overrides session =
        ⟨.ok config, { session with config := some config }, []⟩ ∧
      config.Layers overrides (.forDeployment session.environment.deployment) := by
  obtain ⟨config, accepted, layers⟩ := Config.ofValue_override distinct fitting
    (Config.forDeployment session.environment.deployment)
  refine ⟨config, ?_, layers⟩
  change install (Config.ofValue ((Config.forDeployment _).override overrides)) session = _
  rw [accepted]
  rfl

/-- In production, a level that is given and two data that are written down as absent. -/
theorem installOverrides_layers_production :
    let session : Session := { initial with environment := [("NODE_ENV", "production")] }
    let overrides : Value := .object [("environment", .absent),
      ("logging", .object [("pretty", .absent), ("level", .text "warn")]), ("codec", .absent)]
    (installOverrides overrides session).result =
      .ok ⟨.development, ⟨.warn, true, true⟩, ⟨true⟩, ⟨false⟩⟩ := by
  intro session overrides
  obtain ⟨config, installed, layers⟩ := installOverrides_layers session overrides
    (fun asked => by cases asked <;> decide)
    fun position _ => Config.faults_eq_nil_iff.mp (by decide) position
  rw [installed]
  refine congrArg Except.ok (Config.eq_of_datum fun field => ?_)
  cases field with
  | deployment => exact layers.blank .deployment rfl
  | level => exact layers.given .level _ rfl rfl
  | pretty => exact layers.blank .pretty rfl
  | enabled => exact layers.left .enabled rfl
  | collapseMapped => exact layers.left .collapseMapped rfl
  | legacyCompatible => exact layers.left .legacyCompatible rfl

/-- What is written down as absent does not always follow from the deployment. -/
theorem not_forall_installOverrides_datum :
    ¬ ∀ (session : Session) (overrides : Value), Config.HasDistinctNames overrides →
      (∀ position ≠ Config.Position.root, ¬ position.IsAtFault overrides) →
      ∃ config, (installOverrides overrides session).result = .ok config ∧
        ∀ field : Config.Field, config.datum field = (overrides.follow field.path).orElse
          ((Config.forDeployment session.environment.deployment).datum field) := by
  intro layered
  let session : Session := { initial with environment := [("NODE_ENV", "production")] }
  let overrides : Value := .object [("logging", .object [("pretty", .absent)])]
  obtain ⟨config, installed, follows⟩ := layered session overrides
    (fun asked => by cases asked <;> decide)
    fun position _ => Config.faults_eq_nil_iff.mp (by decide) position
  have filled : (installOverrides overrides session).result =
      .ok ⟨.production, ⟨.info, true, true⟩, ⟨true⟩, ⟨false⟩⟩ := by decide +kernel
  cases filled.symm.trans installed
  cases follows .pretty

end Session

end InterfaceAddress
