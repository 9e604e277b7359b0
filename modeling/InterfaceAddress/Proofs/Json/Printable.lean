import InterfaceAddress.Proofs.Json.RoundTrip
import Mathlib

/-! # JSON text is on one line

Control characters are escaped in names and strings, and nothing else that is written has any. So
the text of a value is printable (`Json.isPrintable_write`).
-/

namespace InterfaceAddress

/-- Text without control characters. -/
def Text.IsPrintable (text : List Char) : Prop := ∀ char ∈ text, 0x20 ≤ char.toNat

instance (text : List Char) : Decidable (Text.IsPrintable text) := List.decidableBAll _ text

namespace Text.IsPrintable

variable {text other : List Char}

theorem append (printable : IsPrintable text) (otherPrintable : IsPrintable other) :
    IsPrintable (text ++ other) := List.forall_mem_append.mpr ⟨printable, otherPrintable⟩

/-- Printable text between two marks. -/
theorem between (printable : IsPrintable text) {before after : Char}
    (marks : IsPrintable [before, after]) : IsPrintable (before :: text ++ [after]) := by
  obtain ⟨first, last⟩ := List.forall_mem_cons.mp marks
  exact append (List.forall_mem_cons.mpr ⟨first, printable⟩) last

end Text.IsPrintable

namespace Json

open Text

theorem isPrintable_of_isWordChar {word : List Char}
    (isWord : ∀ char ∈ word, isWordChar char = true) : IsPrintable word := by
  intro char member
  by_contra control
  have none : ∀ code < 0x20, isWordChar (Char.ofNat code) = false := by
    decide
  have other := none char.toNat (Nat.not_le.mp control)
  rw [Char.ofNat_toNat, isWord char member] at other
  cases other

theorem isPrintable_escape (char : Char) : IsPrintable (escape char) := by
  unfold escape
  cases short : shortEscape? char with
  | some letter =>
    unfold shortEscape? at short
    split at short <;> cases short <;> decide
  | none =>
    by_cases control : char.toNat < 0x20
    · have code : ∀ value < 0x20, IsPrintable
          ['\\', 'u', '0', '0', (value / 16).digitChar, (value % 16).digitChar] := by
        decide
      simp only [if_pos control]
      exact code char.toNat control
    · simp only [if_neg control]
      exact List.forall_mem_singleton.mpr (Nat.not_lt.mp control)

theorem isPrintable_quote (text : String) : IsPrintable (quote text) := by
  apply IsPrintable.between _ (by decide)
  intro char member
  obtain ⟨given, -, escaped⟩ := List.mem_flatMap.mp member
  exact isPrintable_escape given char escaped

theorem isPrintable_intercalate {texts : List (List Char)}
    (printable : ∀ text ∈ texts, IsPrintable text) :
    IsPrintable (List.intercalate [','] texts) := by
  induction texts with
  | nil => exact nofun
  | cons text rest ih =>
    obtain ⟨first, others⟩ := List.forall_mem_cons.mp printable
    by_cases last : rest = []
    · rw [last, List.intercalate_singleton]
      exact first
    · rw [intercalate_cons last, ← List.singleton_append]
      exact first.append (IsPrintable.append (by decide) (ih others))

mutual

/-- The text of a value has no control characters. -/
theorem isPrintable_write (value : Value) : IsPrintable (write value) := by
  match value with
  | .absent | .null => exact isPrintable_of_isWordChar (List.all_eq_true.mp rfl)
  | .bool true => exact isPrintable_of_isWordChar (List.all_eq_true.mp rfl)
  | .bool false => exact isPrintable_of_isWordChar (List.all_eq_true.mp rfl)
  | .number value => exact isPrintable_of_isWordChar (number_isWord value).2.2
  | .text value => exact isPrintable_quote value
  | .list items =>
    exact (isPrintable_intercalate (isPrintable_writeItems items)).between (by decide)
  | .object members =>
    exact (isPrintable_intercalate (isPrintable_writeMembers members)).between (by decide)

theorem isPrintable_writeItems (items : List Value) :
    ∀ text ∈ writeItems items, IsPrintable text := by
  match items with
  | [] => exact nofun
  | item :: rest =>
    exact List.forall_mem_cons.mpr ⟨isPrintable_write item, isPrintable_writeItems rest⟩

theorem isPrintable_writeMembers (members : List (String × Value)) :
    ∀ text ∈ writeMembers members, IsPrintable text := by
  match members with
  | [] => exact nofun
  | (name, value) :: rest =>
    rw [writeMembers]
    split
    · exact isPrintable_writeMembers rest
    · have colon : IsPrintable [':'] := by decide
      exact List.forall_mem_cons.mpr
        ⟨(isPrintable_quote name).append (colon.append (isPrintable_write value)),
          isPrintable_writeMembers rest⟩

end

end Json

end InterfaceAddress
