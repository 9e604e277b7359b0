import InterfaceAddress.Proofs.Config.Position
import Mathlib

/-! # Validation fills in and lists every fault

A check finds the issues of a value, or gives data that depend on the value. What
a check of a member or of joined members finds follows from what its parts find,
so that the check of a configuration finds exactly the positions that are at fault
(`Config.check_finds`) and otherwise fills in what is left out. A configuration is
accepted as it is, and unknown members make no difference
(`Config.ofValue_normalizes`).
-/

namespace InterfaceAddress

/-! ### Outcomes of checks -/

/-- An outcome without issues holds a value with a property, and any other holds its issues. -/
def Checked.Gives (outcome : Checked α) (issues : List Issue) (Holds : α → Prop) : Prop :=
  match outcome with
  | valid value => issues = [] ∧ Holds value
  | invalid found => issues ≠ [] ∧ found = issues

/-- A check finds these issues of a value, and where there are none it gives data with a property
that depends on the value. -/
def Check.Finds (check : Check α) (issues : Value → List Issue) (Holds : Value → α → Prop) : Prop :=
  ∀ value, (check value).Gives (issues value) (Holds value)

/-- An issue seen from outside of a member. -/
def Issue.under (name : String) (issue : Issue) : Issue := { issue with path := name :: issue.path }

namespace Checked.Gives

variable {issues others : List Issue} {Holds : α → Prop} {Result : β → Prop}

theorem map {outcome : Checked α} {f : α → β} (gives : outcome.Gives issues Holds)
    (carried : ∀ value, Holds value → Result (f value)) :
    (outcome.map f).Gives issues Result := by
  cases outcome with
  | valid value => exact ⟨gives.1, carried value gives.2⟩
  | invalid found => exact gives

theorem both {first : Checked (α → β)} {second : Checked α}
    (gives : first.Gives issues fun f => ∀ value, Holds value → Result (f value))
    (alsoGives : second.Gives others Holds) :
    (first.both second).Gives (issues ++ others) Result := by
  cases first with
  | valid f =>
    obtain ⟨rfl, carried⟩ := gives
    exact alsoGives.map carried
  | invalid found =>
    obtain ⟨some, rfl⟩ := gives
    refine ⟨List.append_ne_nil_of_left_ne_nil some others, ?_⟩
    cases second with
    | valid value =>
      obtain ⟨rfl, -⟩ := alsoGives
      rfl
    | invalid alsoFound =>
      obtain ⟨-, rfl⟩ := alsoGives
      rfl

theorem under {outcome : Checked α} (gives : outcome.Gives issues Holds) (name : String) :
    (outcome.under name).Gives (issues.map (·.under name)) Holds := by
  cases outcome with
  | valid value =>
    obtain ⟨rfl, holds⟩ := gives
    exact ⟨rfl, holds⟩
  | invalid found =>
    obtain ⟨some, rfl⟩ := gives
    exact ⟨fun none => some (List.map_eq_nil_iff.mp none), rfl⟩

end Checked.Gives

namespace Config

/-! ### Fields -/

/-- The issues of a field whose value is found at the end of a path. -/
def Field.issues (field : Field) (path : List String) (value : Value) : List Issue :=
  if field.Refuses value then [⟨path, field.complaint value⟩] else []

namespace Field

variable {field : Field}

theorem issues_of_refuses {path : List String} {value : Value} (refuses : field.Refuses value) :
    field.issues path value = [⟨path, field.complaint value⟩] := if_pos refuses

theorem issues_of_fits {path : List String} {value : Value} (fits : field.fits value = true) :
    field.issues path value = [] := if_neg fun refuses => by simp [Refuses, fits] at refuses

theorem issues_absent (field : Field) (path : List String) : field.issues path .absent = [] :=
  if_neg fun refuses => Bool.noConfusion refuses.1

theorem map_under_issues (field : Field) (name : String) (path : List String) (value : Value) :
    (field.issues path value).map (·.under name) = field.issues (name :: path) value := by
  unfold issues
  split <;> rfl

/-- A switch that may be left out. -/
theorem bool_finds (field : Field) (isSwitch : field.names? = none) (default : Bool) :
    (Check.bool.orDefault default).Finds (field.issues [])
      fun value found => .bool found = value.orElse (.bool default) := by
  intro value
  cases value with
  | absent => exact ⟨field.issues_absent [], rfl⟩
  | bool switch =>
    have fits : field.fits (.bool switch) = true := by simp only [Field.fits, isSwitch]
    exact ⟨issues_of_fits fits, rfl⟩
  | null | number | text | list | object =>
    rw [issues_of_refuses ⟨rfl, by simp only [Field.fits, isSwitch]⟩]
    simp only [complaint, isSwitch]
    exact ⟨List.cons_ne_nil _ _, rfl⟩

/-- One of several names, which may be left out. -/
theorem oneOf_finds (field : Field) {all : List α} {name : α → String}
    (named : field.names? = some (all.map name)) (default : α) :
    ((Check.oneOf all name).orDefault default).Finds (field.issues [])
      fun value found => .text (name found) = value.orElse (.text (name default)) := by
  intro value
  cases value with
  | absent => exact ⟨field.issues_absent [], rfl⟩
  | text given =>
    cases found : all.find? fun item => name item = given with
    | some item =>
      have same : name item = given := by simpa using List.find?_some found
      have fits : field.fits (.text given) = true := by
        simp only [Field.fits, named, List.contains_eq_mem, List.mem_map, decide_eq_true_eq]
        exact ⟨item, List.mem_of_find?_eq_some found, same⟩
      simp only [Check.orDefault, Check.oneOf, found]
      exact ⟨issues_of_fits fits, congrArg Value.text same⟩
    | none =>
      have unknown : field.fits (.text given) = false := by
        simpa [Field.fits, named] using found
      rw [issues_of_refuses ⟨rfl, unknown⟩]
      simp only [complaint, named, Check.orDefault, Check.oneOf, found, List.map_map]
      exact ⟨List.cons_ne_nil _ _, rfl⟩
  | null | bool | number | list | object =>
    rw [issues_of_refuses ⟨rfl, by simp only [Field.fits, named]⟩]
    simp only [complaint, named, List.map_map]
    exact ⟨List.cons_ne_nil _ _, rfl⟩

end Field

/-- A field that is found in a member has its issues there. -/
theorem member_finds {field : Field} {check : Check α} {path : List String}
    {Holds : Value → α → Prop} (finds : check.Finds (field.issues path) Holds) (name : String) :
    (check.member name).Finds (fun value => field.issues (name :: path) (value.member name))
      fun value => Holds (value.member name) := by
  intro value
  beta_reduce
  rw [← Field.map_under_issues]
  exact (finds (value.member name)).under name

/-! ### Positions -/

/-- The issue of a position, if it is at fault. -/
def Position.issues (value : Value) (position : Position) : List Issue :=
  if position.IsAtFault value then [position.issue value] else []

theorem flatMap_issues (value : Value) :
    Position.all.flatMap (·.issues value) = (faults value).map (·.issue value) := by
  rw [faults]
  induction Position.all with
  | nil => rfl
  | cons position rest ih =>
    rw [List.flatMap_cons, ih]
    by_cases fault : position.IsAtFault value
    · rw [Position.issues, if_pos fault, List.filter_cons_of_pos (by simpa using fault)]
      rfl
    · rw [Position.issues, if_neg fault, List.filter_cons_of_neg (by simpa using fault)]
      rfl

/-- The issues of a section itself, seen from inside. -/
def shapeIssues (value : Value) : List Issue :=
  if value.isAbsent = false ∧ ¬ value.IsObject then
    [⟨[], "Expected object, received " ++ value.kind⟩]
  else []

theorem Position.issues_part (value : Value) (asked : Section) :
    (part asked).issues value =
      (shapeIssues (value.member asked.name)).map (·.under asked.name) := by
  by_cases fault : (part asked).IsAtFault value
  · have shapeless : shapeIssues (value.member asked.name) =
        [⟨[], "Expected object, received " ++ (value.member asked.name).kind⟩] := if_pos fault
    rw [issues, if_pos fault, shapeless]
    rfl
  · have shaped : shapeIssues (value.member asked.name) = [] := if_neg fault
    rw [issues, if_neg fault, shaped]
    rfl

theorem Section.path_of_mem_fields {asked : Section} {field : Field}
    (member : field ∈ asked.fields) : field.path = [asked.name, field.name] := by
  cases asked <;> simp only [fields, List.mem_cons, List.not_mem_nil, or_false] at member <;>
    rcases member with rfl | rfl | rfl <;> rfl

theorem Position.flatMap_issues_fields (value : Value) (asked : Section) :
    (asked.fields.map Position.field).flatMap (·.issues value) =
      (asked.fields.flatMap fun field => field.issues [field.name]
        ((value.member asked.name).member field.name)).map (·.under asked.name) := by
  rw [List.flatMap_map, List.map_flatMap]
  apply List.flatMap_congr
  intro field member
  rw [Field.map_under_issues, ← Section.path_of_mem_fields member]
  change field.issues field.path (value.follow field.path) = _
  rw [Section.path_of_mem_fields member]
  rfl

/-! ### Sections -/

/-- The fields of a section hold the values given for them or else those of the schema. -/
def Fills (asked : Section) (value : Value) (config : Config) : Prop :=
  ∀ field ∈ asked.fields,
    config.datum field = (value.member field.name).orElse (standard.datum field)

/-- A section may be left out, and in what is no object there is nothing to find. -/
theorem finds_section (asked : Section) {check : Check α} {default : α} (insert : α → Config)
    (inserted : insert default = standard)
    (gives : ∀ members, (check (.object members)).Gives
      (asked.fields.flatMap fun field => field.issues [field.name]
        (Value.member (.object members) field.name))
      fun found => Fills asked (.object members) (insert found)) :
    (((Check.object check).orDefault default).member asked.name).Finds
      (fun value => (Position.ofSection asked).flatMap (·.issues value))
      fun value found => Fills asked (value.member asked.name) (insert found) := by
  intro value
  beta_reduce
  rw [Position.ofSection, List.flatMap_cons, Position.issues_part, Position.flatMap_issues_fields,
    ← List.map_append]
  refine Checked.Gives.under ?_ asked.name
  have silent {given : Value} (empty : given.members = []) :
      (asked.fields.flatMap fun field => field.issues [field.name] (given.member field.name)) =
        [] := by
    simp only [Value.member_of_members_eq_nil empty, Field.issues_absent, List.flatMap_eq_nil_iff,
      implies_true]
  cases value.member asked.name with
  | object members =>
    have shaped : shapeIssues (.object members) = [] := if_neg fun shapeless =>
      shapeless.2 ⟨members, rfl⟩
    rw [shaped]
    exact gives members
  | absent =>
    rw [silent rfl]
    refine ⟨rfl, fun field _ => ?_⟩
    rw [inserted]
    rfl
  | null | bool | number | text | list =>
    rw [silent rfl]
    exact ⟨List.cons_ne_nil _ _, rfl⟩

theorem logging_finds : ((LoggingConfig.check.orDefault .standard).member "logging").Finds
    (fun value => (Position.ofSection .logging).flatMap (·.issues value))
    fun value logging => Fills .logging (value.member "logging") { standard with logging } := by
  refine finds_section .logging (fun logging => { standard with logging }) rfl ?_
  intro members
  have level := member_finds (Field.level.oneOf_finds rfl .info) "level" (.object members)
  have pretty := member_finds (Field.pretty.bool_finds rfl true) "pretty" (.object members)
  have enabled := member_finds (Field.enabled.bool_finds rfl true) "enabled" (.object members)
  simp only [Section.fields, List.flatMap_cons, List.flatMap_nil, List.append_nil,
    ← List.append_assoc]
  refine ((level.map ?_).both pretty).both enabled
  intro level hasLevel pretty hasPretty enabled hasEnabled field member
  simp only [Section.fields, List.mem_cons, List.not_mem_nil, or_false] at member
  rcases member with rfl | rfl | rfl
  · exact hasLevel
  · exact hasPretty
  · exact hasEnabled

theorem address_finds : ((AddressConfig.check.orDefault .standard).member "address").Finds
    (fun value => (Position.ofSection .address).flatMap (·.issues value))
    fun value address => Fills .address (value.member "address") { standard with address } := by
  refine finds_section .address (fun address => { standard with address }) rfl ?_
  intro members
  have collapse := member_finds (Field.collapseMapped.bool_finds rfl true) "collapseMappedIpv4"
    (.object members)
  simp only [Section.fields, List.flatMap_cons, List.flatMap_nil, List.append_nil]
  refine collapse.map ?_
  intro collapse hasCollapse field member
  cases List.mem_singleton.mp member
  exact hasCollapse

theorem codec_finds : ((CodecConfig.check.orDefault .standard).member "codec").Finds
    (fun value => (Position.ofSection .codec).flatMap (·.issues value))
    fun value codec => Fills .codec (value.member "codec") { standard with codec } := by
  refine finds_section .codec (fun codec => { standard with codec }) rfl ?_
  intro members
  have compatible := member_finds (Field.legacyCompatible.bool_finds rfl false) "legacyCompat"
    (.object members)
  simp only [Section.fields, List.flatMap_cons, List.flatMap_nil, List.append_nil]
  refine compatible.map ?_
  intro compatible hasCompatible field member
  cases List.mem_singleton.mp member
  exact hasCompatible

/-! ### The whole value -/

/-- The check of a configuration finds the positions that are at fault. Without any it fills in the
schema's own value for each field that is left out. -/
theorem check_finds : check.Finds (fun value => (faults value).map (·.issue value))
    fun value config => ∀ field, config.datum field =
      (value.follow field.path).orElse (standard.datum field) := by
  intro value
  cases value with
  | object members =>
    have deployment := member_finds (Field.deployment.oneOf_finds rfl .development)
      "environment" (.object members)
    have logging := logging_finds (.object members)
    have address := address_finds (.object members)
    have codec := codec_finds (.object members)
    have shaped : Position.root.issues (.object members) = [] := if_neg fun shapeless =>
      shapeless ⟨members, rfl⟩
    beta_reduce
    rw [← flatMap_issues]
    simp only [Position.all, Section.all, List.flatMap_cons, shaped, List.flatMap_append,
      List.flatMap_nil, List.append_nil, List.nil_append, ← List.append_assoc]
    refine (((deployment.map ?_).both logging).both address).both codec
    intro deployment hasDeployment logging hasLogging address hasAddress codec hasCodec field
    cases field with
    | deployment => exact hasDeployment
    | level => exact hasLogging .level (by decide)
    | pretty => exact hasLogging .pretty (by decide)
    | enabled => exact hasLogging .enabled (by decide)
    | collapseMapped => exact hasAddress .collapseMapped (by decide)
    | legacyCompatible => exact hasCodec .legacyCompatible (by decide)
  | absent | null | bool | number | text | list =>
    beta_reduce
    rw [← flatMap_issues]
    exact ⟨List.cons_ne_nil _ _, rfl⟩

/-- A value is read field by field, or its faults are listed. -/
theorem ofValue_cases (value : Value) :
    (faults value = [] ∧ ∃ config, ofValue value = .ok config ∧
      ∀ field, config.datum field = (value.follow field.path).orElse (standard.datum field)) ∨
    (faults value ≠ [] ∧ check value = .invalid ((faults value).map (·.issue value)) ∧
      ofValue value = .error ⟨(faults value).map (·.entry value)⟩) := by
  have finds : (check value).Gives ((faults value).map (·.issue value)) _ := check_finds value
  unfold ofValue
  cases checked : check value with
  | valid config =>
    rw [checked] at finds
    exact .inl ⟨List.map_eq_nil_iff.mp finds.1, config, rfl, finds.2⟩
  | invalid issues =>
    rw [checked] at finds
    obtain ⟨some, rfl⟩ := finds
    refine .inr ⟨fun none => some (by rw [none, List.map_nil]), rfl, ?_⟩
    simp only [List.map_map, Function.comp_def, Position.text_issue]

/-! ### Unknown members -/

/-- Two values that are both absent, both objects or of one other kind. -/
structure AreAlike (value other : Value) : Prop where
  isAbsent : value.isAbsent = other.isAbsent
  isObject : value.IsObject ↔ other.IsObject
  kind : value.kind = other.kind

theorem AreAlike.refl (value : Value) : AreAlike value value := ⟨rfl, Iff.rfl, rfl⟩

theorem AreAlike.objects (members others : Members) :
    AreAlike (.object members) (.object others) := ⟨rfl, iff_of_true ⟨_, rfl⟩ ⟨_, rfl⟩, rfl⟩

theorem AreAlike.only (names : List String) (value : Value) :
    AreAlike (value.only names) value := by
  cases value with
  | object members => exact .objects _ members
  | absent | null | bool | number | text | list => exact .refl _

/-- Two values that the schema does not tell apart. -/
structure AreSeenAlike (value other : Value) : Prop where
  root : AreAlike value other
  part (asked : Section) : AreAlike (value.member asked.name) (other.member asked.name)
  field (asked : Field) : value.follow asked.path = other.follow asked.path

theorem areSeenAlike_known (value : Value) : AreSeenAlike (known value) value := by
  cases value with
  | object members =>
    refine ⟨.objects _ members, fun asked => ?_, fun asked => ?_⟩
    · cases asked <;> exact .only _ _
    · cases asked with
      | deployment => rfl
      | level | pretty | enabled | collapseMapped | legacyCompatible =>
        exact Value.member_only (by decide) _
  | absent | null | bool | number | text | list =>
    exact ⟨.refl _, fun _ => .refl _, fun _ => rfl⟩

namespace AreSeenAlike

variable {value other : Value}

theorem isAtFault (alike : AreSeenAlike value other) (position : Position) :
    position.IsAtFault value ↔ position.IsAtFault other := by
  cases position with
  | root => exact not_congr alike.root.isObject
  | part asked =>
    exact and_congr (by rw [(alike.part asked).isAbsent]) (not_congr (alike.part asked).isObject)
  | field asked => rw [Position.IsAtFault, Position.IsAtFault, alike.field asked]

theorem complaint (alike : AreSeenAlike value other) (position : Position) :
    position.complaint value = position.complaint other := by
  cases position with
  | root => rw [Position.complaint_root, Position.complaint_root, alike.root.isAbsent,
      alike.root.kind]
  | part asked => rw [Position.complaint_part, Position.complaint_part, (alike.part asked).kind]
  | field asked => rw [Position.complaint_field, Position.complaint_field, alike.field asked]

theorem entry (alike : AreSeenAlike value other) (position : Position) :
    position.entry value = position.entry other := by
  cases position with
  | root => exact alike.complaint .root
  | part asked => exact congrArg (_ ++ ·) (alike.complaint (.part asked))
  | field asked => exact congrArg (_ ++ ·) (alike.complaint (.field asked))

theorem faults_eq (alike : AreSeenAlike value other) : faults value = faults other := by
  simp only [faults, alike.isAtFault]

theorem ofValue_eq (alike : AreSeenAlike value other) : ofValue value = ofValue other := by
  rcases ofValue_cases value with ⟨none, config, accepted, filled⟩ | ⟨some, -, refused⟩
  · rcases ofValue_cases other with ⟨-, found, alsoAccepted, alsoFilled⟩ | ⟨some, -⟩
    · have equal : config = found := eq_of_datum fun field => by
        rw [filled, alike.field, alsoFilled]
      rw [accepted, alsoAccepted, equal]
    · exact absurd (alike.faults_eq.symm.trans none) some
  · rcases ofValue_cases other with ⟨none, -⟩ | ⟨-, -, alsoRefused⟩
    · exact absurd (alike.faults_eq.trans none) some
    · rw [refused, alsoRefused, alike.faults_eq, List.map_congr_left fun position _ =>
        alike.entry position]

end AreSeenAlike

/-- **Validation fills in what is left out and lists every fault.** A value is accepted exactly if
none of its positions is at fault. The configuration then holds every value that is given and the
schema's own values for the rest, and it is accepted unchanged. Members that the schema does not
know make no difference. A value that is not accepted has one entry for each position that is at
fault, in the order of the schema. -/
theorem ofValue_normalizes (value : Value) :
    ((∃ config, ofValue value = .ok config) ↔
      ∀ position : Position, ¬ position.IsAtFault value) ∧
    (∀ config, ofValue value = .ok config →
      (∀ field, config.datum field = (value.follow field.path).orElse (standard.datum field)) ∧
      ofValue config.toValue = .ok config) ∧
    ofValue (known value) = ofValue value ∧
    (∀ error, ofValue value = .error error →
      error.issues ≠ [] ∧ error.issues = (faults value).map (·.entry value) ∧
      ∃ issues, check value = .invalid issues ∧ issues.map Issue.text = error.issues) := by
  have unknown := (areSeenAlike_known value).ofValue_eq
  rcases ofValue_cases value with ⟨none, config, accepted, filled⟩ | ⟨some, checked, refused⟩
  · refine ⟨iff_of_true ⟨config, accepted⟩ (faults_eq_nil_iff.mp none), ?_, unknown, ?_⟩
    · intro found alsoAccepted
      cases accepted.symm.trans alsoAccepted
      exact ⟨filled, config.ofValue_toValue⟩
    · intro error refused
      cases accepted.symm.trans refused
  · refine ⟨iff_of_false ?_ fun fine => some (faults_eq_nil_iff.mpr fine), ?_, unknown, ?_⟩
    · rintro ⟨config, accepted⟩
      cases refused.symm.trans accepted
    · intro config accepted
      cases refused.symm.trans accepted
    · intro error alsoRefused
      cases refused.symm.trans alsoRefused
      refine ⟨fun none => some (List.map_eq_nil_iff.mp none), rfl, _, checked, ?_⟩
      simp only [List.map_map, Function.comp_def, Position.text_issue]

/-- Three faults of different kinds around a section that is fine. -/
theorem ofValue_normalizes_faults :
    let value : Value := .object [("environment", .text "staging"), ("logging", .list []),
      ("address", .object [("zone", .null), ("collapseMappedIpv4", .bool false)]),
      ("codec", .object [("legacyCompat", .null)])]
    ∃ error, ofValue value = .error error ∧ error.issues =
      ["environment: Invalid enum value. " ++
        "Expected 'development' | 'test' | 'production', received 'staging'",
      "logging: Expected object, received array",
      "codec.legacyCompat: Expected boolean, received null"] := by
  intro value
  obtain ⟨accepts, -, -, lists⟩ := ofValue_normalizes value
  cases checked : ofValue value with
  | ok config =>
    have fault : (Position.part .logging).IsAtFault value := by decide
    exact absurd fault (accepts.mp ⟨config, checked⟩ _)
  | error error =>
    refine ⟨error, rfl, (lists error checked).2.1.trans ?_⟩
    decide +kernel

end Config
end InterfaceAddress
