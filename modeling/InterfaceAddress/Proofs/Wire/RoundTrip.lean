import InterfaceAddress.Proofs.Session.Origin
import Mathlib

/-! # Encoding and decoding undo each other

A decoded descriptor is encoded to the octets that were read
(`encode_of_decode`), and the record of a descriptor that was obtained in any way
is decoded to an equal descriptor (`exists_decode_of_encode`). The record says
which layout it has, and a legacy record forgets the lifetimes.
-/

namespace InterfaceAddress.Wire

variable {descriptor : Descriptor} {octets : List UInt8} {mode : Bool} {layout : Layout}

/-! ### Encoding what was decoded -/

/-- A decoded descriptor is encoded to the octets that its layout spans. -/
theorem encode_of_decode (decoded : decode octets mode = .ok (descriptor, layout)) :
    descriptor.encode layout = .ok (octets.take (layout.length (octets.headD 0).toNat)) := by
  obtain ⟨first, rest, rfl, resolved, holds⟩ := holds_of_decode decoded
  have enough := length_le_of_resolveLayout resolved
  have contents := holds.contents_eq (Contents.fits_ofRecord enough)
  rw [Descriptor.encode, contents]
  exact congrArg Except.ok (Contents.write_ofRecord rfl enough)

/-- **Encoding undoes decoding.** What a strict reader accepts is encoded to the whole record, and
what a compatible reader accepts to the part of it that has the legacy layout. -/
theorem tryEncode_of_tryDecode (octets : List UInt8) (session later : Session)
    (descriptor : Descriptor) (layout : Layout) :
    ((tryDecode octets (some false) session).result = .ok (.ok (descriptor, layout)) →
      (descriptor.tryEncode layout later).result = .ok (.ok octets)) ∧
    ((tryDecode octets (some true) session).result = .ok (.ok (descriptor, layout)) →
      layout = .legacy ∧ 10 + (octets.headD 0).toNat ≤ octets.length ∧
        (descriptor.tryEncode .legacy later).result =
          .ok (.ok (octets.take (10 + (octets.headD 0).toNat)))) := by
  constructor
  · intro given
    obtain ⟨mode, chosen, decoded⟩ := exists_decode_of_tryDecode given
    cases chosen
    have encoded := encode_of_decode decoded
    obtain ⟨first, rest, rfl, resolved, -⟩ := holds_of_decode decoded
    rw [List.headD_cons, length_eq_of_resolveLayout_strict resolved, List.take_length] at encoded
    exact Descriptor.tryEncode_result_eq_ok_iff.mpr encoded
  · intro given
    obtain ⟨mode, chosen, decoded⟩ := exists_decode_of_tryDecode given
    cases chosen
    have encoded := encode_of_decode decoded
    obtain ⟨first, rest, rfl, resolved, -⟩ := holds_of_decode decoded
    obtain rfl := layout_of_resolveLayout_compatible resolved
    have enough := length_le_of_resolveLayout resolved
    rw [Layout.length_legacy] at enough encoded
    exact ⟨rfl, enough, Descriptor.tryEncode_result_eq_ok_iff.mpr encoded⟩

/-- A record with an embedded address and numbers at the ends of what they can be. -/
def extremeRecord : List UInt8 :=
  16 :: Address.mappedHeader ++ [192, 0, 2, 1] ++ [96] ++ [255, 255, 255, 255] ++ [128, 0, 0, 0] ++
    [0, 31, 255, 255, 255, 255, 255, 255] ++ [127, 255, 255, 255, 255, 255, 255, 255]

theorem length_extremeAddress : (Address.mappedHeader ++ [192, 0, 2, 1]).length = 4 ∨
    (Address.mappedHeader ++ [192, 0, 2, 1]).length = 16 := .inr rfl

/-- What the record describes, with these lifetimes. -/
def extremeDescriptor (lifetimes : Lifetimes) : Descriptor where
  address := ⟨Address.mappedHeader ++ [192, 0, 2, 1], length_extremeAddress⟩
  prefixLength := 96
  storedFlags := .ofNat (2 ^ 32 - 1)
  scope := .ofInt (-2 ^ 31)
  lifetimes := lifetimes

theorem tryEncode_of_tryDecode_extreme :
    let known := extremeDescriptor ⟨.instant (.ofInt (2 ^ 53 - 1)), .permanent⟩
    let unknown := extremeDescriptor ⟨.unknown, .unknown⟩
    ((tryDecode extremeRecord (some false) .initial).result = .ok (.ok (known, .current)) ∧
      (known.tryEncode .current .initial).result = .ok (.ok extremeRecord)) ∧
    ((tryDecode extremeRecord (some true) .initial).result = .ok (.ok (unknown, .legacy)) ∧
      (unknown.tryEncode .legacy .initial).result = .ok (.ok (extremeRecord.take 26))) := by
  intro known unknown
  have strict : (tryDecode extremeRecord (some false) .initial).result =
      .ok (.ok (known, .current)) := by
    decide +kernel
  have lenient : (tryDecode extremeRecord (some true) .initial).result =
      .ok (.ok (unknown, .legacy)) := by
    decide +kernel
  have whole := (tryEncode_of_tryDecode extremeRecord .initial .initial known .current).1 strict
  have front := (tryEncode_of_tryDecode extremeRecord .initial .initial unknown .legacy).2 lenient
  exact ⟨⟨strict, whole⟩, lenient, front.2.2⟩

/-! ### Decoding what was encoded -/

theorem resolveLayout_length (layout : Layout) (addressLength : Nat) :
    resolveLayout (layout.length addressLength) addressLength false = .ok layout := by
  unfold resolveLayout
  cases layout with
  | legacy =>
    rw [if_neg (Nat.lt_irrefl _), if_pos]
    simp
  | current =>
    rw [Layout.length_legacy, Layout.length_current, if_neg (by omega), if_neg, if_pos rfl]
    simp

namespace Contents

variable {contents : Contents}

theorem Fits.restrict (fits : contents.Fits) (layout : Layout) :
    (contents.restrict layout).Fits := by
  cases layout with
  | legacy =>
    exact ⟨fits.prefixLength, fits.flags, fits.scope, unknownWord_fits, unknownWord_fits⟩
  | current => exact fits

theorem rejection?_restrict (accepted : contents.rejection? = none) (layout : Layout) :
    (contents.restrict layout).rejection? = none := by
  cases layout with
  | legacy =>
    rw [rejection?] at accepted ⊢
    split_ifs at accepted with long multicast
    simp [Contents.restrict, long, multicast]
  | current => exact accepted

/-- What is written stands at the positions of the layout. -/
theorem ofRecord_write (fits : contents.Fits) (layout : Layout) :
    ofRecord layout contents.address.length (contents.write layout) = contents.restrict layout := by
  have read := read?_eq_ofRecord (length_write contents layout).ge
  rw [read?_write fits] at read
  exact (Option.some.inj read).symm

theorem exists_write_eq_cons (contents : Contents) (layout : Layout) :
    ∃ rest, contents.write layout = UInt8.ofNat contents.address.length :: rest := by
  cases layout with
  | legacy =>
    simp only [write, Layout.fields, List.flatMap_cons, writeField, List.cons_append]
    exact ⟨_, rfl⟩
  | current =>
    simp only [write, Layout.fields, List.flatMap_cons, writeField, List.cons_append]
    exact ⟨_, rfl⟩

/-- Numbers with lifetimes that break no rule become a descriptor that holds them. -/
theorem exists_toDescriptor (fits : contents.Fits)
    (octetCount : contents.address.length = 4 ∨ contents.address.length = 16)
    (deprecation : IsLifetimeWord contents.deprecation)
    (expiration : IsLifetimeWord contents.expiration) (accepted : contents.rejection? = none) :
    ∃ descriptor, contents.toDescriptor = .ok descriptor ∧ descriptor.Holds contents := by
  rcases toDescriptor_cases fits octetCount deprecation expiration with
    ⟨rejection, -, refused⟩ | ⟨descriptor, built, -, holds⟩
  · rw [accepted] at refused
    cases refused
  · exact ⟨descriptor, built, holds⟩

/-- The header of what is written tells the family of the address, and the length the layout. -/
theorem decode_write (fits : contents.Fits)
    (octetCount : contents.address.length = 4 ∨ contents.address.length = 16) (layout : Layout) :
    decode (contents.write layout) false =
      (contents.restrict layout).toDescriptor.map (·, layout) := by
  obtain ⟨family, counted⟩ : ∃ family : Family, contents.address.length = family.octetCount := by
    rcases octetCount with short | long
    · exact ⟨.v4, short⟩
    · exact ⟨.v6, long⟩
  obtain ⟨rest, cons⟩ := contents.exists_write_eq_cons layout
  have header : (UInt8.ofNat contents.address.length).toNat = family.octetCount := by
    rw [counted]
    cases family <;> rfl
  have resolved : resolveLayout (UInt8.ofNat contents.address.length :: rest).length
      family.octetCount false = .ok layout := by
    rw [← cons, contents.length_write layout, counted]
    exact resolveLayout_length layout _
  rw [cons, decode_of_resolveLayout header resolved, ← cons, ← counted, ofRecord_write fits]

end Contents

/-- What a layout has of a well-formed descriptor is decoded. -/
theorem exists_decode_write {contents : Contents} (wellFormed : descriptor.WellFormed)
    (holds : descriptor.Holds contents) (fits : contents.Fits) (layout : Layout) :
    ∃ decoded : Descriptor, decode (contents.write layout) false = .ok (decoded, layout) ∧
      decoded.Holds (contents.restrict layout) := by
  have octetCount : contents.address.length = 4 ∨ contents.address.length = 16 := by
    rw [← holds.address]
    exact descriptor.address.length_octets
  have known : IsLifetimeWord (contents.restrict layout).deprecation ∧
      IsLifetimeWord (contents.restrict layout).expiration := by
    cases layout with
    | legacy => exact ⟨.inl rfl, .inl rfl⟩
    | current => exact ⟨holds.deprecation.isLifetimeWord, holds.expiration.isLifetimeWord⟩
  have accepted := Contents.rejection?_eq_none_of_holds wellFormed holds
  obtain ⟨decoded, built, decodedHolds⟩ := Contents.exists_toDescriptor (fits.restrict layout)
    (by rwa [Contents.address_restrict]) known.1 known.2
    (Contents.rejection?_restrict accepted layout)
  rw [Contents.decode_write fits octetCount, built]
  exact ⟨decoded, rfl, decodedHolds⟩

/-- The record of a well-formed descriptor is decoded to a descriptor that holds what its layout
has of the descriptor. -/
theorem exists_decode_of_encode (wellFormed : descriptor.WellFormed)
    (encoded : descriptor.encode layout = .ok octets) :
    ∃ contents decoded, descriptor.Holds contents ∧
      decode octets false = .ok (decoded, layout) ∧ decoded.Holds (contents.restrict layout) := by
  rw [Descriptor.encode] at encoded
  cases written : descriptor.contents with
  | error error =>
    rw [written] at encoded
    cases encoded
  | ok contents =>
    rw [written] at encoded
    obtain rfl : contents.write layout = octets := Except.ok.inj encoded
    obtain ⟨holds, fits⟩ := Descriptor.holds_of_contents wellFormed written
    obtain ⟨decoded, read, decodedHolds⟩ := exists_decode_write wellFormed holds fits layout
    exact ⟨contents, decoded, holds, read, decodedHolds⟩

/-- **Decoding undoes encoding.** The record of a descriptor that was obtained in any way is
accepted by a strict reader and gives an equal descriptor in the same layout, with equal lifetimes
if the layout has them and unknown ones otherwise. An embedded address stays as it is. -/
theorem tryDecode_of_tryEncode {descriptor : Descriptor} (obtained : descriptor.Obtained)
    {layout : Layout} {session : Session} {octets : List UInt8}
    (encoded : (descriptor.tryEncode layout session).result = .ok (.ok octets))
    {choice : Option Bool} {later : Session}
    (strict : (compatible choice later).result = .ok false) :
    ∃ decoded : Descriptor,
      (tryDecode octets choice later).result = .ok (.ok (decoded, layout)) ∧
      decoded.equals descriptor = true ∧ decoded.address = descriptor.address ∧
      match layout with
      | .legacy => decoded.lifetimes = ⟨.unknown, .unknown⟩
      | .current =>
        decoded.lifetimes.deprecation.toNumber.same
          descriptor.lifetimes.deprecation.toNumber = true ∧
        decoded.lifetimes.expiration.toNumber.same
          descriptor.lifetimes.expiration.toNumber = true := by
  obtain ⟨contents, decoded, holds, read, decodedHolds⟩ :=
    exists_decode_of_encode obtained.wellFormed (Descriptor.tryEncode_result_eq_ok_iff.mp encoded)
  have equal := holds.equals_of_restrict decodedHolds
  have address : decoded.address = descriptor.address := by
    simp only [Descriptor.equals, Descriptor.isSameAddressAs, Bool.and_eq_true,
      decide_eq_true_eq] at equal
    exact equal.1.1.1
  refine ⟨decoded, by rw [tryDecode_result strict, read], equal, address, ?_⟩
  cases layout with
  | legacy =>
    have deprecation := decodedHolds.deprecation.eq_unknown
    have expiration := decodedHolds.expiration.eq_unknown
    exact congrArg₂ Lifetimes.mk deprecation expiration
  | current =>
    exact ⟨decodedHolds.deprecation.toNumber_same holds.deprecation,
      decodedHolds.expiration.toNumber_same holds.expiration⟩

/-- The record of an embedded address whose flags and scope are zero. -/
def zeroRecord : List UInt8 :=
  16 :: Address.mappedHeader ++ [192, 0, 2, 1] ++ 96 :: List.replicate 8 0

theorem tryDecode_of_tryEncode_negativeZero :
    ∃ descriptor decoded : Descriptor,
      (Descriptor.tryParse "::ffff:192.0.2.1/96" ⟨none, some (-0), none, none⟩ (some false)
        .initial).result = .ok (.ok descriptor) ∧
      (descriptor.tryEncode .legacy .initial).result = .ok (.ok zeroRecord) ∧
      (tryDecode zeroRecord (some false) .initial).result = .ok (.ok (decoded, .legacy)) ∧
      decoded.equals descriptor = true ∧ decoded.address = descriptor.address := by
  let descriptor : Descriptor :=
    ⟨⟨Address.mappedHeader ++ [192, 0, 2, 1], .inr rfl⟩, 96, 0, -0, ⟨.unknown, .unknown⟩⟩
  have parsed : (Descriptor.tryParse "::ffff:192.0.2.1/96" ⟨none, some (-0), none, none⟩
      (some false) .initial).result = .ok (.ok descriptor) := by
    decide +kernel
  have encoded : (descriptor.tryEncode .legacy .initial).result = .ok (.ok zeroRecord) := by
    decide +kernel
  have strict : (compatible (some false) .initial).result = .ok false := rfl
  obtain ⟨decoded, read, equal, address, -⟩ :=
    tryDecode_of_tryEncode (.tryParse parsed) encoded strict
  exact ⟨descriptor, decoded, parsed, encoded, read, equal, address⟩

end InterfaceAddress.Wire
