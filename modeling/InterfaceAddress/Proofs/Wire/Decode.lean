import InterfaceAddress.Proofs.Wire.Descriptor
import Mathlib

/-! # Decoding by position

The length of a record and the octet in front of it settle its layout; from then
on decoding depends only on the numbers that stand at the positions of this
layout (`decode_of_resolveLayout`).
-/

namespace InterfaceAddress

/-! ### Families -/

namespace Family

theorem ofOctetCount?_eq_some_iff {count : Nat} {family : Family} :
    ofOctetCount? count = some family ↔ count = family.octetCount := by
  constructor
  · intro found
    unfold ofOctetCount? at found
    split_ifs at found with short long
    · cases found
      exact short
    · cases found
      exact long
  · rintro rfl
    cases family <;> rfl

theorem octetCount_known (family : Family) :
    ¬ (family.octetCount ≠ 4 ∧ family.octetCount ≠ 16) := by
  cases family with
  | v4 => exact fun other => other.1 rfl
  | v6 => exact fun other => other.2 rfl

end Family

namespace Wire

variable {octets rest : List UInt8} {first : UInt8} {compatible : Bool} {layout : Layout}
  {length addressLength : Nat}

/-! ### Layouts -/

/-- A record that has a layout is at least as long as the layout. -/
theorem length_le_of_resolveLayout
    (resolved : resolveLayout length addressLength compatible = .ok layout) :
    layout.length addressLength ≤ length := by
  simp only [resolveLayout] at resolved
  split_ifs at resolved <;> cases resolved <;> omega

/-- A compatible reader knows only the legacy layout. -/
theorem layout_of_resolveLayout_compatible
    (resolved : resolveLayout length addressLength true = .ok layout) : layout = .legacy := by
  simp only [resolveLayout] at resolved
  split_ifs at resolved <;> simp_all

/-- A strict reader takes the whole record. -/
theorem length_eq_of_resolveLayout_strict
    (resolved : resolveLayout length addressLength false = .ok layout) :
    layout.length addressLength = length := by
  simp only [resolveLayout] at resolved
  split_ifs at resolved with short legacy current
  · cases resolved
    rw [Bool.false_or, decide_eq_true_eq] at legacy
    exact legacy.symm
  · cases resolved
    exact current.symm

/-! ### Records with a layout -/

theorem Contents.octetCount_ofRecord {family : Family}
    (enough : layout.length family.octetCount ≤ octets.length) :
    (Contents.ofRecord layout family.octetCount octets).address.length = 4 ∨
      (Contents.ofRecord layout family.octetCount octets).address.length = 16 := by
  have legacy := Nat.le_trans (layout.legacy_length_le family.octetCount) enough
  have inside : 1 + family.octetCount ≤ octets.length := by omega
  simp only [ofRecord, length_slice inside]
  cases family with
  | v4 => exact .inl rfl
  | v6 => exact .inr rfl

theorem readDraft_of_resolveLayout {family : Family} (counted : first.toNat = family.octetCount)
    (resolved : resolveLayout (first :: rest).length family.octetCount compatible = .ok layout) :
    readDraft (first :: rest) compatible =
      (Contents.ofRecord layout family.octetCount (first :: rest)).toDraft.map (layout, ·) := by
  have read := Contents.read?_eq_ofRecord (length_le_of_resolveLayout resolved)
  rw [List.drop_one, List.tail_cons] at read
  have known := Family.ofOctetCount?_eq_some_iff.mpr counted
  simp only [readDraft, known, resolved, read, bind, Except.bind, pure, Except.pure, Except.map]

theorem readDraft_of_unresolved {family : Family} (counted : first.toNat = family.octetCount)
    {error : DecodeError}
    (unresolved : resolveLayout (first :: rest).length family.octetCount compatible =
      .error error) : readDraft (first :: rest) compatible = .error error := by
  have known := Family.ofOctetCount?_eq_some_iff.mpr counted
  simp only [readDraft, known, unresolved, bind, Except.bind]

theorem readDraft_of_not_octetCount (unknown : ∀ family : Family, first.toNat ≠ family.octetCount) :
    readDraft (first :: rest) compatible = .error (.badAddressLength first.toNat) := by
  have absent : Family.ofOctetCount? first.toNat = none := by
    rw [Option.eq_none_iff_forall_ne_some]
    exact fun family found => unknown family (Family.ofOctetCount?_eq_some_iff.mp found)
  simp only [readDraft, absent]
  rfl

/-- A draft that is read is that of some contents. -/
theorem exists_toDraft_of_readDraft {draft : Draft}
    (read : readDraft octets compatible = .ok (layout, draft)) :
    ∃ contents : Contents, contents.toDraft = .ok draft := by
  cases octets with
  | nil => cases read
  | cons first rest =>
    by_cases known : ∃ family : Family, first.toNat = family.octetCount
    · obtain ⟨family, counted⟩ := known
      cases resolved : resolveLayout (first :: rest).length family.octetCount compatible with
      | error error =>
        rw [readDraft_of_unresolved counted resolved] at read
        cases read
      | ok found =>
        rw [readDraft_of_resolveLayout counted resolved] at read
        refine ⟨Contents.ofRecord found family.octetCount (first :: rest), ?_⟩
        cases drafted : (Contents.ofRecord found family.octetCount (first :: rest)).toDraft with
        | error error =>
          rw [drafted] at read
          cases read
        | ok draft =>
          rw [drafted] at read
          cases read
          rfl
    · rw [readDraft_of_not_octetCount (not_exists.mp known)] at read
      cases read

theorem decode_of_readDraft_error {error : DecodeError}
    (failed : readDraft octets compatible = .error error) :
    decode octets compatible = .error error := by
  simp only [decode, failed, bind, Except.bind]

section Draft

variable {draft : Draft} (read : readDraft octets compatible = .ok (layout, draft))
include read

theorem decode_of_built {descriptor : Descriptor} (built : draft.build false = .ok descriptor) :
    decode octets compatible = .ok (descriptor, layout) := by
  simp only [decode, read, built, bind, Except.bind, Except.mapError, pure, Except.pure]

theorem decode_of_rejected {rejection : Rejection}
    (rejected : draft.build false = .error rejection) :
    decode octets compatible = .error (.invalid rejection) := by
  simp only [decode, read, rejected, bind, Except.bind, Except.mapError]

end Draft

/-- A record with a layout is decoded from the numbers at the positions of the layout. -/
theorem decode_of_resolveLayout {family : Family} (counted : first.toNat = family.octetCount)
    (resolved : resolveLayout (first :: rest).length family.octetCount compatible = .ok layout) :
    decode (first :: rest) compatible = (Contents.ofRecord layout family.octetCount
      (first :: rest)).toDescriptor.map (·, layout) := by
  rw [decode, readDraft_of_resolveLayout counted resolved, Contents.toDescriptor]
  cases (Contents.ofRecord layout family.octetCount (first :: rest)).toDraft with
  | error error => rfl
  | ok draft =>
    change ((draft.build false).mapError DecodeError.invalid).bind _ =
      ((draft.build false).mapError DecodeError.invalid).map _
    cases (draft.build false).mapError DecodeError.invalid <;> rfl

/-- What is decoded is the descriptor of the numbers at the positions of its layout. -/
theorem exists_toDescriptor_of_decode {descriptor : Descriptor}
    (decoded : decode octets compatible = .ok (descriptor, layout)) :
    ∃ first rest, ∃ family : Family, octets = first :: rest ∧
      first.toNat = family.octetCount ∧
      resolveLayout octets.length family.octetCount compatible = .ok layout ∧
      (Contents.ofRecord layout family.octetCount octets).toDescriptor = .ok descriptor := by
  cases octets with
  | nil => cases decoded
  | cons first rest =>
    by_cases known : ∃ family : Family, first.toNat = family.octetCount
    · obtain ⟨family, counted⟩ := known
      refine ⟨first, rest, family, rfl, counted, ?_⟩
      cases resolved : resolveLayout (first :: rest).length family.octetCount compatible with
      | error error =>
        rw [decode_of_readDraft_error (readDraft_of_unresolved counted resolved)] at decoded
        cases decoded
      | ok found =>
        rw [decode_of_resolveLayout counted resolved] at decoded
        cases read : (Contents.ofRecord found family.octetCount (first :: rest)).toDescriptor with
        | error error =>
          rw [read] at decoded
          cases decoded
        | ok built =>
          rw [read] at decoded
          cases decoded
          exact ⟨rfl, read⟩
    · rw [decode_of_readDraft_error (readDraft_of_not_octetCount (not_exists.mp known))] at decoded
      cases decoded

/-- What a decoded record says. -/
theorem holds_of_decode {descriptor : Descriptor}
    (decoded : decode octets compatible = .ok (descriptor, layout)) :
    ∃ first rest, octets = first :: rest ∧
      resolveLayout octets.length first.toNat compatible = .ok layout ∧
      descriptor.Holds (Contents.ofRecord layout first.toNat octets) := by
  obtain ⟨first, rest, family, rfl, counted, resolved, read⟩ :=
    exists_toDescriptor_of_decode decoded
  have enough := length_le_of_resolveLayout resolved
  refine ⟨first, rest, rfl, ?_⟩
  rw [counted]
  exact ⟨resolved, Contents.holds_of_toDescriptor (Contents.fits_ofRecord enough)
    (Contents.octetCount_ofRecord enough) read⟩

end Wire

end InterfaceAddress
