import InterfaceAddress.Proofs.Wire.RoundTrip
import Mathlib

/-! # Legacy readers and the current layout

The current layout appends fields to the legacy one. Both layouts refuse the same
descriptors, and a legacy record is the front of the current record of the same
descriptor (`Descriptor.tryEncode_cases`). A compatible reader does with a record
what a strict reader does with its front, whatever follows
(`Wire.decode_append_eq_take`), and reads what a strict reader accepts as the same
descriptor without its lifetimes (`Wire.decode_append_of_decode`).
-/

namespace InterfaceAddress

open Wire

/-! ### Writing in two layouts -/

/-- The current layout appends the lifetimes. -/
theorem Wire.Contents.write_current (contents : Contents) :
    contents.write .current = contents.write .legacy ++
      (contents.writeField .deprecation ++ contents.writeField .expiration) := by
  simp only [write, Layout.fields, List.flatMap_cons, List.flatMap_nil, List.append_assoc,
    List.append_nil]

/-- The length for the octets of an address is exact in double precision. -/
theorem Wire.Layout.roundedLength_octetCount (layout : Layout) (address : Address) :
    layout.roundedLength (.ofNat address.octets.length) =
      .ofNat (layout.length address.octets.length) := by
  have four : layout.roundedLength (.ofNat 4) = .ofNat (layout.length 4) := by
    cases layout <;> decide +kernel
  have sixteen : layout.roundedLength (.ofNat 16) = .ofNat (layout.length 16) := by
    cases layout <;> decide +kernel
  rcases address.length_octets with short | long
  · rw [short, four]
  · rw [long, sixteen]

namespace Descriptor

/-- A descriptor is refused in every layout or in none. -/
theorem encode_cases (descriptor : Descriptor) :
    (∃ error, ∀ layout, descriptor.encode layout = .error error) ∨
    ∃ contents : Contents, contents.address = descriptor.address.octets ∧
      ∀ layout, descriptor.encode layout = .ok (contents.write layout) := by
  cases written : descriptor.contents with
  | error error =>
    refine .inl ⟨error, fun layout => ?_⟩
    rw [encode, written]
    rfl
  | ok contents =>
    obtain ⟨flags, scope, -, -, same⟩ := contents_eq_ok_iff.mp written
    refine .inr ⟨contents, by rw [same], fun layout => ?_⟩
    rw [encode, written]
    rfl

/-- In a session as well, both layouts refuse a descriptor for the same error, or its legacy record
is the front of the current one. -/
theorem tryEncode_cases (descriptor : Descriptor) :
    (∃ error : EncodeError, ∀ layout session,
      (descriptor.tryEncode layout session).result = session.afterLog .warn (.error error)) ∨
    ∃ record : Layout → List UInt8,
      (∀ layout session, (descriptor.tryEncode layout session).result = .ok (.ok (record layout))) ∧
      record .legacy <+: record .current ∧
      ∀ layout, (record layout).length = layout.length descriptor.address.octets.length := by
  rcases descriptor.encode_cases with ⟨error, refused⟩ | ⟨contents, address, encoded⟩
  · refine .inl ⟨error, fun layout session => ?_⟩
    rw [tryEncode_result, refused]
  · refine .inr ⟨contents.write, fun layout session => ?_, ?_, fun layout => ?_⟩
    · rw [tryEncode_result, encoded]
    · rw [Contents.write_current]
      exact List.prefix_append ..
    · rw [Contents.length_write, address]

end Descriptor

namespace Wire

variable {octets : List UInt8} {layout : Layout} {descriptor : Descriptor}

/-! ### Reading without the lifetimes -/

theorem resolveLayout_compatible {length addressLength : Nat}
    (enough : Layout.legacy.length addressLength ≤ length) :
    resolveLayout length addressLength true = .ok .legacy := by
  simp only [resolveLayout, Bool.true_or, if_true]
  rw [if_neg (Nat.not_lt.mpr enough)]

/-- Numbers that have a draft have one without its lifetimes as well. -/
theorem Contents.toDraft_restrict {contents : Contents} {draft : Draft}
    (drafted : contents.toDraft = .ok draft) :
    (contents.restrict .legacy).toDraft = .ok draft.withoutLifetimes := by
  obtain ⟨first, second, -, -, rfl⟩ := toDraft_eq_ok_iff.mp drafted
  exact toDraft_eq_ok_iff.mpr ⟨.unknown, .unknown, rfl, rfl, rfl⟩

theorem Contents.toDescriptor_restrict {contents : Contents}
    (built : contents.toDescriptor = .ok descriptor) :
    (contents.restrict .legacy).toDescriptor = .ok descriptor.withoutLifetimes := by
  obtain ⟨draft, drafted, built⟩ := toDescriptor_eq_ok_iff.mp built
  exact toDescriptor_eq_ok_iff.mpr
    ⟨_, toDraft_restrict drafted, Draft.build_withoutLifetimes built⟩

/-- What a strict reader accepts, a compatible reader reads without the lifetimes. -/
theorem decode_compatible_of_decode (decoded : decode octets false = .ok (descriptor, layout)) :
    decode octets true = .ok (descriptor.withoutLifetimes, .legacy) := by
  obtain ⟨first, rest, family, rfl, counted, resolved, read⟩ :=
    exists_toDescriptor_of_decode decoded
  have enough := length_le_of_resolveLayout resolved
  have legacy : Layout.legacy.length family.octetCount ≤ (first :: rest).length := by
    rw [Layout.length_legacy]
    exact Nat.le_trans (layout.legacy_length_le _) enough
  rw [decode_of_resolveLayout counted (resolveLayout_compatible legacy),
    ← Contents.restrict_ofRecord layout, Contents.toDescriptor_restrict read]
  rfl

/-! ### Reading the front of a record -/

/-- What follows a record in the legacy layout does not count for a compatible reader. -/
theorem decode_append (exact : octets.length = 10 + (octets.headD 0).toNat)
    (suffix : List UInt8) : decode (octets ++ suffix) true = decode octets false := by
  cases octets with
  | nil => cases exact
  | cons first rest =>
    rw [List.headD_cons] at exact
    by_cases known : ∃ family : Family, first.toNat = family.octetCount
    · obtain ⟨family, counted⟩ := known
      have spans : (first :: rest).length = Layout.legacy.length family.octetCount := by
        rw [exact, counted, Layout.length_legacy]
      have enough : Layout.legacy.length family.octetCount ≤ (first :: (rest ++ suffix)).length := by
        rw [← spans, ← List.cons_append, List.length_append]
        exact Nat.le_add_right ..
      have strict := resolveLayout_length .legacy family.octetCount
      rw [← spans] at strict
      rw [decode_of_resolveLayout counted strict, List.cons_append,
        decode_of_resolveLayout counted (resolveLayout_compatible enough), ← List.cons_append,
        Contents.ofRecord_append spans.ge]
    · have unknown := not_exists.mp known
      rw [List.cons_append, decode_of_readDraft_error (readDraft_of_not_octetCount unknown),
        decode_of_readDraft_error (readDraft_of_not_octetCount unknown)]

/-- The front of a record counts the same octets as the whole record. -/
theorem length_take_front (enough : 10 + (octets.headD 0).toNat ≤ octets.length) :
    (octets.take (10 + (octets.headD 0).toNat)).length =
      10 + ((octets.take (10 + (octets.headD 0).toNat)).headD 0).toNat := by
  have first : (octets.take (10 + (octets.headD 0).toNat)).headD 0 = octets.headD 0 := by
    cases octets with
    | nil => rfl
    | cons first rest => rw [Nat.add_comm, List.take_succ_cons, List.headD_cons, List.headD_cons]
  rw [List.length_take_of_le enough, first]

/-- A compatible reader does with a record, whatever follows it, what a strict reader does with the
part of it that has the legacy layout. -/
theorem decode_append_eq_take (enough : 10 + (octets.headD 0).toNat ≤ octets.length)
    (suffix : List UInt8) :
    decode (octets ++ suffix) true =
      decode (octets.take (10 + (octets.headD 0).toNat)) false := by
  have front := decode_append (length_take_front enough)
    (octets.drop (10 + (octets.headD 0).toNat) ++ suffix)
  rwa [← List.append_assoc, List.take_append_drop] at front

/-- What follows a record that a strict reader accepts does not count for a compatible reader. -/
theorem decode_append_of_decode (decoded : decode octets false = .ok (descriptor, layout))
    (suffix : List UInt8) :
    decode (octets ++ suffix) true = .ok (descriptor.withoutLifetimes, .legacy) := by
  obtain ⟨first, rest, rfl, resolved, -⟩ := holds_of_decode decoded
  have enough : 10 + ((first :: rest).headD 0).toNat ≤ (first :: rest).length :=
    Nat.le_trans (layout.legacy_length_le _) (length_le_of_resolveLayout resolved)
  have alone := decode_append_eq_take enough []
  rw [List.append_nil] at alone
  rw [decode_append_eq_take enough suffix, ← alone, decode_compatible_of_decode decoded]

/-- **The current layout does not affect a legacy reader.** Both layouts refuse the same
descriptors for the same error, and otherwise the legacy record is the front of the current one.
What a strict reader accepts in either layout, a compatible reader accepts with anything behind it,
as the same descriptor without its lifetimes. It does with a record what a strict reader does with
the part of it that has the legacy layout. -/
theorem legacyReader_unaffected (descriptor : Descriptor) (octets suffix : List UInt8)
    (session later : Session) :
    ((∃ error : EncodeError, ∀ layout session,
        (descriptor.tryEncode layout session).result = session.afterLog .warn (.error error)) ∨
      ∃ record : Layout → List UInt8,
        (∀ layout session,
          (descriptor.tryEncode layout session).result = .ok (.ok (record layout))) ∧
        record .legacy <+: record .current ∧
        ∀ layout, (record layout).length = layout.length descriptor.address.octets.length ∧
          layout.roundedLength (.ofNat descriptor.address.octets.length) =
            .ofNat (record layout).length) ∧
    (∀ decoded layout,
      (tryDecode octets (some false) session).result = .ok (.ok (decoded, layout)) →
      (tryDecode (octets ++ suffix) (some true) later).result =
        .ok (.ok ({ decoded with lifetimes := ⟨.unknown, .unknown⟩ }, .legacy))) ∧
    (10 + (octets.headD 0).toNat ≤ octets.length →
      (tryDecode octets (some true) session).result =
        (tryDecode (octets.take (10 + (octets.headD 0).toNat)) (some false) session).result) := by
  have strict (session : Session) : (compatible (some false) session).result = .ok false := rfl
  have lenient (session : Session) : (compatible (some true) session).result = .ok true := rfl
  refine ⟨?_, ?_, ?_⟩
  · rcases descriptor.tryEncode_cases with refused | ⟨record, encoded, front, lengths⟩
    · exact .inl refused
    · refine .inr ⟨record, encoded, front, fun layout => ⟨lengths layout, ?_⟩⟩
      rw [lengths, Layout.roundedLength_octetCount]
  · intro decoded layout given
    obtain ⟨mode, chosen, read⟩ := exists_decode_of_tryDecode given
    cases chosen
    rw [tryDecode_result (lenient later), decode_append_of_decode read]
    rfl
  · intro enough
    have same := decode_append_eq_take enough []
    rw [List.append_nil] at same
    rw [tryDecode_result (lenient session), tryDecode_result (strict session), same]

/-- The extreme record with a deprecation time that a strict reader does not accept. -/
def outOfRangeRecord : List UInt8 := extremeRecord.take 26 ++ 128 :: List.replicate 15 0

theorem legacyReader_unaffected_extreme :
    let known := extremeDescriptor ⟨.instant (.ofInt (2 ^ 53 - 1)), .permanent⟩
    let unknown := extremeDescriptor ⟨.unknown, .unknown⟩
    ((tryDecode extremeRecord (some false) .initial).result = .ok (.ok (known, .current)) ∧
      (tryDecode (extremeRecord ++ [1, 2, 3]) (some true) .initial).result =
        .ok (.ok (unknown, .legacy))) ∧
    ((tryDecode outOfRangeRecord (some false) .initial).result =
        .ok (.error (.timestampOutOfRange .deprecation (-2 ^ 63))) ∧
      (tryDecode outOfRangeRecord (some true) .initial).result =
        (tryDecode (outOfRangeRecord.take 26) (some false) .initial).result) := by
  intro known unknown
  have strict : (tryDecode extremeRecord (some false) .initial).result =
      .ok (.ok (known, .current)) := by
    decide +kernel
  have refused : (tryDecode outOfRangeRecord (some false) .initial).result =
      .ok (.error (.timestampOutOfRange .deprecation (-2 ^ 63))) := by
    decide +kernel
  have accepted :=
    (legacyReader_unaffected known extremeRecord [1, 2, 3] .initial .initial).2.1 _ _ strict
  have front :=
    (legacyReader_unaffected known outOfRangeRecord [] .initial .initial).2.2 (by decide)
  exact ⟨⟨strict, accepted⟩, refused, front⟩

end Wire

end InterfaceAddress
