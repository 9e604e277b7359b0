import InterfaceAddress.Log.Logger
import InterfaceAddress.Proofs.Json.Printable
import InterfaceAddress.Proofs.Value.Merge
import Mathlib

/-! # Entries on one line

Whatever an entry holds, its JSON has no control characters (`Entry.isPrintable_json`). It is read
back with its level, message, service and component if the context leaves these alone
(`Entry.exists_read?_json`). In colour the control characters are those of the terminal sequences
(`Entry.isColoured_pretty`).
-/

namespace InterfaceAddress.Log

open Text

/-- The members of a context leave alone those by which an entry is found. -/
structure IsAside (context : Members) : Prop where
  distinct : (context.map Prod.fst).Nodup
  apart : ∀ name ∈ ["level", "msg", "service", "component"], name ∉ context.map Prod.fst

/-- Each member of an object has a name of its own, and by some of them an entry is found. -/
structure Identifies (members : Members) (level : Level) (component message : String) : Prop where
  distinct : (members.map Prod.fst).Nodup
  level : members.lookup "level" = some (.text level.name)
  message : members.lookup "msg" = some (.text message)
  service : members.lookup "service" = some (.text "ifaddr")
  component : members.lookup "component" = some (.text component)

/-- Printable texts between the terminal sequences for colours, which are nowhere else. -/
def IsColoured (line : String) (level : Level) (component message : String) : Prop :=
  ∃ time context : String,
    (∀ text ∈ [time, level.label, component, message, context], IsPrintable text.toList) ∧
    line = Entry.faint ++ time ++ Entry.plain ++ " " ++ level.color ++ level.label ++
      Entry.plain ++ " " ++ "[" ++ component ++ "] " ++ message ++ " " ++ Entry.faint ++ context ++
      Entry.plain

namespace Entry

variable {entry : Entry} {component : String}

/-- The text of an entry in JSON is on one line. -/
theorem isPrintable_json (entry : Entry) : IsPrintable entry.json.toList := by
  rw [json, Value.json, String.toList_ofList]
  exact Json.isPrintable_write _

theorem identifies_ownMembers (named : entry.namedComponent? = some component) :
    Identifies entry.ownMembers entry.level component entry.message := by
  rw [ownMembers, named]
  constructor
  case distinct => simp
  all_goals rfl

/-- An entry is read back with its level, message, service and component. -/
theorem exists_read?_json (named : entry.namedComponent? = some component)
    (aside : IsAside entry.context) : ∃ members, Json.read? entry.json = some (.object members) ∧
      Identifies members entry.level component entry.message := by
  refine ⟨Value.membersAfterJson (entry.ownMembers.merge entry.context), Json.read?_json _, ?_⟩
  have own := identifies_ownMembers named
  have kept {name : String} {text : String}
      (listed : name ∈ ["level", "msg", "service", "component"])
      (held : entry.ownMembers.lookup name = some (.text text)) :
      (Value.membersAfterJson (entry.ownMembers.merge entry.context)).lookup name =
        some (.text text) := by
    have found : (entry.ownMembers.merge entry.context).lookup name = some (.text text) := by
      rw [Members.lookup_merge aside.distinct,
        Members.lookup_eq_none_of_not_mem (aside.apart name listed), held]
      rfl
    exact Value.lookup_membersAfterJson found rfl
  have merged := (Members.IsMergeOf.of_nodup own.distinct).merge (.of_nodup aside.distinct)
  have distinct : ((entry.ownMembers.merge entry.context).map Prod.fst).Nodup := by
    rw [merged.eq_ofList]
    exact Members.nodup_ofList _
  exact ⟨distinct.sublist (Value.sublist_membersAfterJson _), kept (by simp) own.level,
    kept (by simp) own.message, kept (by simp) own.service, kept (by simp) own.component⟩

theorem isPrintable_timeText (time : Int) : IsPrintable (timeText time) := by
  have digits (width value : Nat) : IsPrintable (padded width value) := by
    intro char member
    have isDigit : char.isDigit = true := by
      rcases List.mem_append.mp member with zero | digit
      · rw [List.eq_of_mem_replicate zero]
        rfl
      · exact isDigit_of_mem_toDigits_ten digit
    have bounds := Char.isDigit_iff_toNat.mp isDigit
    exact Nat.le_trans (by decide) bounds.1
  have colon : IsPrintable [':'] := by decide
  have point : IsPrintable ['.'] := by decide
  refine (IsPrintable.append ?_ (colon.append (digits _ _))).append (point.append (digits _ _))
  exact (digits _ _).append (colon.append (digits _ _))

/-- The text of an entry in colour has its control characters where a colour changes. -/
theorem isColoured_pretty (named : entry.namedComponent? = some component)
    (given : entry.context ≠ []) (printable : IsPrintable component.toList)
    (messagePrintable : IsPrintable entry.message.toList) :
    IsColoured entry.pretty entry.level component entry.message := by
  refine ⟨String.ofList (timeText entry.time), (Value.object entry.context).json, ?_, ?_⟩
  · have time : IsPrintable (String.ofList (timeText entry.time)).toList := by
      rw [String.toList_ofList]
      exact isPrintable_timeText entry.time
    have label : IsPrintable entry.level.label.toList := by
      cases entry.level <;> decide
    have context : IsPrintable (Value.object entry.context).json.toList := by
      rw [Value.json, String.toList_ofList]
      exact Json.isPrintable_write _
    simp only [List.forall_mem_cons, time, label, printable, messagePrintable, context, true_and]
    exact List.forall_mem_nil _
  · have nonempty : entry.context.isEmpty = false := List.isEmpty_eq_false_iff.mpr given
    simp only [pretty, named, nonempty, String.append_assoc]
    rfl

end Entry

/-- The only control characters of a text are escape characters. -/
def IsControlledByEscapes (text : List Char) : Prop :=
  ∀ char ∈ text, char.toNat < 0x20 → char = '\x1b'

instance (text : List Char) : Decidable (IsControlledByEscapes text) :=
  List.decidableBAll _ text

/-- A coloured line has no control characters but those that begin the terminal sequences. -/
theorem IsColoured.isControlledByEscapes {line : String} {level : Level}
    {component message : String} (coloured : IsColoured line level component message) :
    IsControlledByEscapes line.toList := by
  obtain ⟨time, context, printable, rfl⟩ := coloured
  have join {front rest : String} (frontControlled : IsControlledByEscapes front.toList)
      (restControlled : IsControlledByEscapes rest.toList) :
      IsControlledByEscapes (front ++ rest).toList := by
    rw [String.toList_append]
    exact List.forall_mem_append.mpr ⟨frontControlled, restControlled⟩
  have within {text : String}
      (member : text ∈ [time, level.label, component, message, context]) :
      IsControlledByEscapes text.toList := fun char held control =>
    absurd (printable text member char held) (Nat.not_le.mpr control)
  have color : IsControlledByEscapes level.color.toList := by
    cases level <;> decide
  -- sixteen parts, each of them given, a color or fixed
  iterate 15 refine join ?_ ?_
  all_goals first | decide | exact color | exact within (by simp)

end InterfaceAddress.Log
