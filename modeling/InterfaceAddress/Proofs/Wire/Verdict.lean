import InterfaceAddress.Proofs.Session.Records
import Mathlib

/-! # The verdict on a record

The wire grammar gives every sequence of octets one verdict (`verdict`): the
first rule that the sequence breaks, or the layout and the numbers that stand at
its positions. The verdict is stated over lengths and positions alone, without
the readers. Decoding follows it (`decode_describes`), whatever the session.
-/

namespace InterfaceAddress.Wire

/-- What the wire grammar says about a record. -/
inductive Verdict where
  | refused (reason : DecodeReason) (cause : Option RejectionReason)
  | accepted (layout : Layout) (contents : Contents)

/-- The verdict on the numbers of a record. -/
def Contents.verdict (contents : Contents) (layout : Layout) : Verdict :=
  if ¬ (IsLifetimeWord contents.deprecation ∧ IsLifetimeWord contents.expiration) then
    .refused .timestampOutOfRange none
  else
    match contents.rejection? with
    | some reason => .refused .invalidDescriptor (some reason)
    | none => .accepted layout contents

/-- The verdict on a record. What is refused is refused for the first rule that it breaks. -/
def verdict (octets : List UInt8) (compatible : Bool) : Verdict :=
  match octets.head? with
  | none => .refused .truncated none
  | some first =>
    let addressLength := first.toNat
    if addressLength ≠ 4 ∧ addressLength ≠ 16 then .refused .badAddressLength none
    else if octets.length < 10 + addressLength then .refused .truncated none
    else if compatible ∨ octets.length = 10 + addressLength then
      (Contents.ofRecord .legacy addressLength octets).verdict .legacy
    else if octets.length < 26 + addressLength then .refused .truncated none
    else if 26 + addressLength < octets.length then .refused .trailingData none
    else (Contents.ofRecord .current addressLength octets).verdict .current

/-- Whether a result of decoding is what the verdict says. -/
def Verdict.Describes (verdict : Verdict) (result : Except DecodeError (Descriptor × Layout)) :
    Prop :=
  match verdict, result with
  | .refused reason cause, .error error =>
    error.reason = reason ∧ error.cause?.map Rejection.reason = cause
  | .accepted layout contents, .ok (descriptor, found) =>
    found = layout ∧ descriptor.Holds contents
  | _, _ => False

variable {octets rest : List UInt8} {first : UInt8} {compatible : Bool} {layout : Layout}
  {family : Family}

/-! ### Numbers -/

theorem Contents.rejection?_ne_nullAddress (contents : Contents) :
    contents.rejection? ≠ some .nullAddress := by
  unfold rejection?
  split_ifs <;> simp

/-- The address of a record is never missing. -/
theorem Contents.verdict_ne_nullAddress (contents : Contents) (layout : Layout)
    (reason : DecodeReason) : contents.verdict layout ≠ .refused reason (some .nullAddress) := by
  unfold verdict
  by_cases representable : IsLifetimeWord contents.deprecation ∧ IsLifetimeWord contents.expiration
  · rw [if_neg (not_not_intro representable)]
    cases found : contents.rejection? with
    | some cause =>
      intro same
      rw [Verdict.refused.injEq] at same
      exact contents.rejection?_ne_nullAddress (found.trans same.2)
    | none =>
      intro same
      cases same
  · rw [if_pos representable]
    intro same
    cases same

/-- The numbers of a record become a descriptor as their verdict says. -/
theorem Contents.toDescriptor_describes {contents : Contents} (fits : contents.Fits)
    (octetCount : contents.address.length = 4 ∨ contents.address.length = 16) (layout : Layout) :
    (contents.verdict layout).Describes (contents.toDescriptor.map (·, layout)) := by
  unfold verdict
  by_cases representable : IsLifetimeWord contents.deprecation ∧ IsLifetimeWord contents.expiration
  · rw [if_neg (not_not_intro representable)]
    rcases toDescriptor_cases fits octetCount representable.1 representable.2 with
      ⟨rejection, refused, reason⟩ | ⟨descriptor, built, accepted, holds⟩
    · rw [refused, reason]
      exact ⟨rfl, rfl⟩
    · rw [built, accepted]
      exact ⟨rfl, holds⟩
  · rw [if_pos representable]
    obtain ⟨field, word, refused⟩ := toDescriptor_of_not_isLifetimeWord representable
    rw [refused]
    exact ⟨rfl, rfl⟩

/-! ### Lengths -/

/-- Where the length gives a layout, the verdict is that on the numbers. -/
theorem verdict_of_resolveLayout (counted : first.toNat = family.octetCount)
    (resolved : resolveLayout (first :: rest).length family.octetCount compatible = .ok layout) :
    verdict (first :: rest) compatible =
      (Contents.ofRecord layout family.octetCount (first :: rest)).verdict layout := by
  simp only [verdict, List.head?_cons, counted, if_neg family.octetCount_known]
  simp only [resolveLayout, Layout.length_legacy, Layout.length_current] at resolved
  split_ifs at resolved with short legacy current between
  · cases resolved
    rw [if_neg short, if_pos (by simpa using legacy)]
  · cases resolved
    rw [if_neg short, if_neg (by simpa using legacy), if_neg (by omega), if_neg (by omega)]

/-- Where the length gives no layout, the verdict is the reason for that. -/
theorem verdict_of_unresolved (counted : first.toNat = family.octetCount) {error : DecodeError}
    (unresolved : resolveLayout (first :: rest).length family.octetCount compatible =
      .error error) :
    verdict (first :: rest) compatible = .refused error.reason none ∧ error.cause? = none := by
  simp only [verdict, List.head?_cons, counted, if_neg family.octetCount_known]
  simp only [resolveLayout, Layout.length_legacy, Layout.length_current] at unresolved
  split_ifs at unresolved with short legacy current between
  · cases unresolved
    rw [if_pos short]
    exact ⟨rfl, rfl⟩
  · cases unresolved
    rw [if_neg short, if_neg (by simpa using legacy), if_pos between]
    exact ⟨rfl, rfl⟩
  · cases unresolved
    rw [if_neg short, if_neg (by simpa using legacy), if_neg between, if_pos (by omega)]
    exact ⟨rfl, rfl⟩

/-! ### Records -/

/-- A record is refused for its length, or its numbers settle the verdict. -/
theorem verdict_cases (octets : List UInt8) (compatible : Bool) :
    (∃ error, decode octets compatible = .error error ∧ error.cause? = none ∧
      verdict octets compatible = .refused error.reason none) ∨
    ∃ layout, ∃ family : Family, layout.length family.octetCount ≤ octets.length ∧
      decode octets compatible =
        (Contents.ofRecord layout family.octetCount octets).toDescriptor.map (·, layout) ∧
      verdict octets compatible =
        (Contents.ofRecord layout family.octetCount octets).verdict layout := by
  cases octets with
  | nil => exact .inl ⟨.empty, rfl, rfl, rfl⟩
  | cons first rest =>
    by_cases known : ∃ family : Family, first.toNat = family.octetCount
    · obtain ⟨family, counted⟩ := known
      cases resolved : resolveLayout (first :: rest).length family.octetCount compatible with
      | error error =>
        obtain ⟨refused, causeless⟩ := verdict_of_unresolved counted resolved
        have failed := decode_of_readDraft_error (readDraft_of_unresolved counted resolved)
        exact .inl ⟨error, failed, causeless, refused⟩
      | ok layout =>
        exact .inr ⟨layout, family, length_le_of_resolveLayout resolved,
          decode_of_resolveLayout counted resolved, verdict_of_resolveLayout counted resolved⟩
    · have unknown : first.toNat ≠ 4 ∧ first.toNat ≠ 16 :=
        ⟨fun short => known ⟨.v4, short⟩, fun long => known ⟨.v6, long⟩⟩
      refine .inl ⟨.badAddressLength first.toNat, ?_, rfl, ?_⟩
      · exact decode_of_readDraft_error (readDraft_of_not_octetCount (not_exists.mp known))
      · simp only [verdict, List.head?_cons, if_pos unknown]
        rfl

/-- Decoding does what the verdict says. -/
theorem decode_describes (octets : List UInt8) (compatible : Bool) :
    (verdict octets compatible).Describes (decode octets compatible) := by
  rcases verdict_cases octets compatible with
    ⟨error, failed, causeless, refused⟩ | ⟨layout, family, enough, decoded, settled⟩
  · rw [failed, refused]
    exact ⟨rfl, by rw [causeless, Option.map_none]⟩
  · rw [decoded, settled]
    exact Contents.toDescriptor_describes (Contents.fits_ofRecord enough)
      (Contents.octetCount_ofRecord enough) layout

theorem verdict_ne_nullAddress (octets : List UInt8) (compatible : Bool) (reason : DecodeReason) :
    verdict octets compatible ≠ .refused reason (some .nullAddress) := by
  rcases verdict_cases octets compatible with
    ⟨error, -, -, refused⟩ | ⟨layout, family, -, -, settled⟩
  · rw [refused]
    intro same
    cases same
  · rw [settled]
    apply Contents.verdict_ne_nullAddress

/-- **Decoding accepts the wire grammar.** A record is decoded to what the grammar says: to a
descriptor with exactly the numbers of the record, or to an error with the reason and the cause of
the first rule that is broken. The address is never missing. An error is given once its entry is
written to the log. -/
theorem tryDecode_verdict (octets : List UInt8) (compatible : Bool) (session : Session) :
    match verdict octets compatible with
    | .accepted layout contents =>
      ∃ descriptor : Descriptor, descriptor.Holds contents ∧
        (tryDecode octets (some compatible) session).result = .ok (.ok (descriptor, layout))
    | .refused reason cause =>
      cause ≠ some .nullAddress ∧
      ∃ error : DecodeError, error.reason = reason ∧ error.cause?.map Rejection.reason = cause ∧
        (tryDecode octets (some compatible) session).result =
          session.afterLog .warn (.error error) := by
  have chosen : (Wire.compatible (some compatible) session).result = .ok compatible := rfl
  have given : (tryDecode octets (some compatible) session).result = _ := tryDecode_result chosen
  have described := decode_describes octets compatible
  cases settled : verdict octets compatible with
  | accepted layout contents =>
    rw [settled] at described
    cases decoded : decode octets compatible with
    | error error =>
      rw [decoded] at described
      exact described.elim
    | ok result =>
      obtain ⟨descriptor, found⟩ := result
      rw [decoded] at described given
      obtain ⟨rfl, holds⟩ := described
      exact ⟨descriptor, holds, given⟩
  | refused reason cause =>
    rw [settled] at described
    cases decoded : decode octets compatible with
    | error error =>
      rw [decoded] at described given
      refine ⟨?_, error, described.1, described.2, given⟩
      rintro rfl
      exact verdict_ne_nullAddress octets compatible reason settled
    | ok result =>
      rw [decoded] at described
      exact described.elim

end InterfaceAddress.Wire
