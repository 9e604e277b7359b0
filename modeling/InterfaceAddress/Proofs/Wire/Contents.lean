import InterfaceAddress.Wire.BigEndian.Lemmas
import InterfaceAddress.Wire.Decode
import Mathlib

/-! # Records by position

The fields of a record stand at fixed positions behind each other. Reading a
record that is long enough gives what stands at these positions
(`Contents.read?_eq_ofRecord`), writing that gives the record up to the end of
its layout (`Contents.write_ofRecord`), and reading what was written gives the
numbers that were written (`Contents.read?_write`).
-/

namespace InterfaceAddress.Wire

/-! ### Lengths -/

@[simp] theorem Layout.length_legacy (addressLength : Nat) :
    Layout.legacy.length addressLength = 10 + addressLength := by
  simp only [length, fields, Field.size, List.foldr_cons, List.foldr_nil]
  omega

@[simp] theorem Layout.length_current (addressLength : Nat) :
    Layout.current.length addressLength = 26 + addressLength := by
  simp only [length, fields, Field.size, List.foldr_cons, List.foldr_nil]
  omega

/-- Every layout begins with the legacy one. -/
theorem Layout.legacy_length_le (layout : Layout) (addressLength : Nat) :
    10 + addressLength ≤ layout.length addressLength := by
  cases layout with
  | legacy => rw [length_legacy]
  | current =>
    rw [length_current]
    omega

/-- Where a field of a record starts. -/
def Field.start (addressLength : Nat) : Field → Nat
  | address => 0
  | prefixLength => 1 + addressLength
  | flags => 2 + addressLength
  | scope => 6 + addressLength
  | deprecation => 10 + addressLength
  | expiration => 18 + addressLength

/-- The fields of a layout lie inside its records. -/
theorem Field.start_add_size_le {layout : Layout} {field : Field} (present : field ∈ layout.fields)
    (addressLength : Nat) :
    field.start addressLength + field.size addressLength ≤ layout.length addressLength := by
  cases layout with
  | legacy =>
    rw [Layout.length_legacy]
    simp only [Layout.fields, List.mem_cons, List.not_mem_nil, or_false] at present
    rcases present with rfl | rfl | rfl | rfl <;> simp only [start, size] <;> omega
  | current =>
    rw [Layout.length_current]
    simp only [Layout.fields, List.mem_cons, List.not_mem_nil, or_false] at present
    rcases present with rfl | rfl | rfl | rfl | rfl | rfl <;> simp only [start, size] <;> omega

/-! ### Numbers in network order -/

/-- As many octets from a position on. -/
def slice (octets : List UInt8) (start size : Nat) : List UInt8 := (octets.drop start).take size

/-- The number in network order that stands at a position. -/
def unsignedAt (octets : List UInt8) (start size : Nat) : Nat :=
  Nat.ofDigits 256 ((slice octets start size).map UInt8.toNat).reverse

/-- The number in two's complement that stands at a position. -/
def signedAt (octets : List UInt8) (start size : Nat) : Int :=
  (unsignedAt octets start size : Int).bmod (256 ^ size)

section Numbers

variable {octets : List UInt8} {start size : Nat}

theorem length_slice (inside : start + size ≤ octets.length) :
    (slice octets start size).length = size := by
  rw [slice, List.length_take, List.length_drop]
  omega

theorem take_eq_take_append_slice (octets : List UInt8) {total start size : Nat}
    (split : total = start + size) :
    octets.take total = octets.take start ++ slice octets start size := by
  rw [split, slice, List.take_add]

/-- What is appended does not change what stands before it. -/
theorem slice_append (inside : start + size ≤ octets.length) (suffix : List UInt8) :
    slice (octets ++ suffix) start size = slice octets start size := by
  rw [slice, slice, List.drop_append_of_le_length (by omega),
    List.take_append_of_le_length (by rw [List.length_drop]; omega)]

theorem unsignedAt_append (inside : start + size ≤ octets.length) (suffix : List UInt8) :
    unsignedAt (octets ++ suffix) start size = unsignedAt octets start size := by
  simp only [unsignedAt, slice_append inside]

theorem signedAt_append (inside : start + size ≤ octets.length) (suffix : List UInt8) :
    signedAt (octets ++ suffix) start size = signedAt octets start size := by
  simp only [signedAt, unsignedAt_append inside]

/-- The fields of a layout stand one behind the other. -/
theorem flatMap_slice_fields (layout : Layout) (addressLength : Nat) (octets : List UInt8) :
    (layout.fields.flatMap fun field =>
        slice octets (field.start addressLength) (field.size addressLength)) =
      octets.take (layout.length addressLength) := by
  have header : slice octets 0 (1 + addressLength) = octets.take (1 + addressLength) := rfl
  have throughScope : octets.take (10 + addressLength) =
      octets.take (1 + addressLength) ++ slice octets (1 + addressLength) 1 ++
        slice octets (2 + addressLength) 4 ++ slice octets (6 + addressLength) 4 := by
    rw [take_eq_take_append_slice octets (by omega : 10 + addressLength = 6 + addressLength + 4),
      take_eq_take_append_slice octets (by omega : 6 + addressLength = 2 + addressLength + 4),
      take_eq_take_append_slice octets (by omega : 2 + addressLength = 1 + addressLength + 1)]
  cases layout with
  | legacy =>
    rw [Layout.length_legacy, throughScope]
    simp [Layout.fields, Field.start, Field.size, header]
  | current =>
    rw [Layout.length_current,
      take_eq_take_append_slice octets (by omega : 26 + addressLength = 18 + addressLength + 8),
      take_eq_take_append_slice octets (by omega : 18 + addressLength = 10 + addressLength + 8),
      throughScope]
    simp [Layout.fields, Field.start, Field.size, header]

theorem natOfOctets_eq_ofDigits (octets : List UInt8) :
    natOfOctets octets = Nat.ofDigits 256 (octets.map UInt8.toNat).reverse := by
  induction octets with
  | nil => rfl
  | cons octet rest ih =>
    rw [natOfOctets_cons, ih, List.map_cons, Nat.ofDigits_reverse_cons, List.length_map,
      capacity_eq]
    ring

theorem natOfOctets_slice (octets : List UInt8) (start size : Nat) :
    natOfOctets (slice octets start size) = unsignedAt octets start size :=
  natOfOctets_eq_ofDigits _

theorem intOfOctets_eq_bmod (octets : List UInt8) :
    intOfOctets octets = (natOfOctets octets : Int).bmod (256 ^ octets.length) := by
  have small := natOfOctets_lt octets
  rw [← capacity_eq, Int.bmod_def, Int.emod_eq_of_lt (by omega) (by omega)]
  simp only [intOfOctets]
  split <;> split <;> omega

theorem intOfOctets_slice (inside : start + size ≤ octets.length) :
    intOfOctets (slice octets start size) = signedAt octets start size := by
  rw [intOfOctets_eq_bmod, length_slice inside, natOfOctets_slice, signedAt]

theorem unsignedAt_lt (inside : start + size ≤ octets.length) :
    unsignedAt octets start size < 256 ^ size := by
  have small := natOfOctets_lt (slice octets start size)
  rwa [natOfOctets_slice, length_slice inside, capacity_eq] at small

/-- A signed number has at most as many bits as its octets. -/
theorem signedAt_bounds (octets : List UInt8) (start size : Nat) :
    -(256 ^ size : Int) ≤ 2 * signedAt octets start size ∧
      2 * signedAt octets start size < 256 ^ size := by
  have positive : 0 < 256 ^ size := Nat.pow_pos (by decide)
  have low := Int.le_bmod (x := unsignedAt octets start size) positive
  have high := Int.bmod_lt (x := unsignedAt octets start size) positive
  rw [← signedAt] at low high
  push_cast at low high
  omega

theorem writeNat_unsignedAt (inside : start + size ≤ octets.length) :
    writeNat size (unsignedAt octets start size) = slice octets start size := by
  have written := writeNat_natOfOctets (slice octets start size)
  rwa [length_slice inside, natOfOctets_slice] at written

theorem writeInt_signedAt (inside : start + size ≤ octets.length) :
    writeInt size (signedAt octets start size) = slice octets start size := by
  have written := writeInt_intOfOctets (slice octets start size)
  rwa [length_slice inside, intOfOctets_slice inside] at written

end Numbers

/-! ### Readers at a position -/

section Readers

variable {octets : List UInt8} {start size : Nat} (inside : start + size ≤ octets.length)
include inside

theorem take?_drop : take? size (octets.drop start) =
    some (slice octets start size, octets.drop (start + size)) := by
  rw [take?, if_pos (by rw [List.length_drop]; omega), List.drop_drop, slice]

theorem readNat?_drop : readNat? size (octets.drop start) =
    some (unsignedAt octets start size, octets.drop (start + size)) := by
  simp only [readNat?, take?_drop inside, Option.map_some, natOfOctets_slice]

theorem readInt?_drop : readInt? size (octets.drop start) =
    some (signedAt octets start size, octets.drop (start + size)) := by
  simp only [readInt?, take?_drop inside, Option.map_some, intOfOctets_slice inside]

end Readers

/-! ### Contents -/

namespace Contents

/-- What stands at the positions of a layout. -/
def ofRecord (layout : Layout) (addressLength : Nat) (octets : List UInt8) : Contents where
  address := slice octets 1 addressLength
  prefixLength := unsignedAt octets (1 + addressLength) 1
  flags := unsignedAt octets (2 + addressLength) 4
  scope := signedAt octets (6 + addressLength) 4
  deprecation := match layout with
    | .legacy => unknownWord
    | .current => signedAt octets (10 + addressLength) 8
  expiration := match layout with
    | .legacy => unknownWord
    | .current => signedAt octets (18 + addressLength) 8

variable {layout : Layout} {addressLength : Nat}

/-- A record that is long enough is read by position. -/
theorem read?_eq_ofRecord {octets : List UInt8}
    (enough : layout.length addressLength ≤ octets.length) :
    read? layout addressLength (octets.drop 1) = some (ofRecord layout addressLength octets) := by
  have legacy := Nat.le_trans (layout.legacy_length_le addressLength) enough
  have address := take?_drop (show 1 + addressLength ≤ octets.length by omega)
  have prefixLength := readNat?_drop (show (1 + addressLength) + 1 ≤ octets.length by omega)
  have flags := readNat?_drop (show (2 + addressLength) + 4 ≤ octets.length by omega)
  have scope := readInt?_drop (show (6 + addressLength) + 4 ≤ octets.length by omega)
  have flagsPlace : 1 + addressLength + 1 = 2 + addressLength := by omega
  have scopePlace : 2 + addressLength + 4 = 6 + addressLength := by omega
  cases layout with
  | legacy =>
    simp only [read?, address, prefixLength, flags, scope, ofRecord, Option.bind_eq_bind,
      Option.bind_some, flagsPlace, scopePlace]
    rfl
  | current =>
    rw [Layout.length_current] at enough
    have deprecation := readInt?_drop (show (10 + addressLength) + 8 ≤ octets.length by omega)
    have expiration := readInt?_drop (show (18 + addressLength) + 8 ≤ octets.length by omega)
    have deprecationPlace : 6 + addressLength + 4 = 10 + addressLength := by omega
    have expirationPlace : 10 + addressLength + 8 = 18 + addressLength := by omega
    simp only [read?, address, prefixLength, flags, scope, deprecation, expiration, ofRecord,
      Option.bind_eq_bind, Option.bind_some, flagsPlace, scopePlace, deprecationPlace,
      expirationPlace]
    rfl

/-- A field of what stands in a record is written as it stands there. -/
theorem writeField_ofRecord {first : UInt8} {rest : List UInt8}
    (counted : first.toNat = addressLength)
    (enough : layout.length addressLength ≤ (first :: rest).length)
    {field : Field} (present : field ∈ layout.fields) :
    (ofRecord layout addressLength (first :: rest)).writeField field =
      slice (first :: rest) (field.start addressLength) (field.size addressLength) := by
  have inside := Nat.le_trans (Field.start_add_size_le present addressLength) enough
  cases field with
  | address =>
    simp only [Field.start, Field.size] at inside ⊢
    simp only [writeField, ofRecord]
    rw [length_slice (by omega), ← counted, UInt8.ofNat_toNat, Nat.add_comm 1]
    rfl
  | prefixLength =>
    simp only [Field.start, Field.size] at inside ⊢
    simp only [writeField, ofRecord, writeNat_unsignedAt inside]
  | flags =>
    simp only [Field.start, Field.size] at inside ⊢
    simp only [writeField, ofRecord, writeNat_unsignedAt inside]
  | scope =>
    simp only [Field.start, Field.size] at inside ⊢
    simp only [writeField, ofRecord, writeInt_signedAt inside]
  | deprecation =>
    cases layout with
    | legacy => simp [Layout.fields] at present
    | current =>
      simp only [Field.start, Field.size] at inside ⊢
      simp only [writeField, ofRecord, writeInt_signedAt inside]
  | expiration =>
    cases layout with
    | legacy => simp [Layout.fields] at present
    | current =>
      simp only [Field.start, Field.size] at inside ⊢
      simp only [writeField, ofRecord, writeInt_signedAt inside]

/-- What stands at the positions of a layout is written as the record up to its end. -/
theorem write_ofRecord {first : UInt8} {rest : List UInt8} (counted : first.toNat = addressLength)
    (enough : layout.length addressLength ≤ (first :: rest).length) :
    (ofRecord layout addressLength (first :: rest)).write layout =
      (first :: rest).take (layout.length addressLength) := by
  rw [write, ← flatMap_slice_fields]
  apply List.flatMap_congr
  intro field present
  exact writeField_ofRecord counted enough present

theorem unknownWord_fits :
    -(capacity 8 : Int) ≤ 2 * unknownWord ∧ 2 * unknownWord < capacity 8 := by
  decide

/-- The numbers fit their fields. -/
structure Fits (contents : Contents) : Prop where
  prefixLength : contents.prefixLength < capacity 1
  flags : contents.flags < capacity 4
  scope : -capacity 4 ≤ 2 * contents.scope ∧ 2 * contents.scope < capacity 4
  deprecation : -capacity 8 ≤ 2 * contents.deprecation ∧ 2 * contents.deprecation < capacity 8
  expiration : -capacity 8 ≤ 2 * contents.expiration ∧ 2 * contents.expiration < capacity 8

/-- What stands in a record fits its fields. -/
theorem fits_ofRecord {octets : List UInt8}
    (enough : layout.length addressLength ≤ octets.length) :
    (ofRecord layout addressLength octets).Fits := by
  have legacy := Nat.le_trans (layout.legacy_length_le addressLength) enough
  have signed (start size : Nat) : -(capacity size : Int) ≤ 2 * signedAt octets start size ∧
      2 * signedAt octets start size < capacity size := by
    rw [capacity_eq]
    exact_mod_cast signedAt_bounds octets start size
  constructor
  case prefixLength =>
    rw [capacity_eq]
    exact unsignedAt_lt (by omega)
  case flags =>
    rw [capacity_eq]
    exact unsignedAt_lt (by omega)
  case scope =>
    simp only [ofRecord]
    exact signed _ _
  case deprecation =>
    cases layout <;> simp only [ofRecord]
    · exact unknownWord_fits
    · exact signed _ _
  case expiration =>
    cases layout <;> simp only [ofRecord]
    · exact unknownWord_fits
    · exact signed _ _

/-- The numbers that a layout has; lifetimes that it does not have are unknown. -/
def restrict (contents : Contents) : Layout → Contents
  | .legacy => { contents with deprecation := unknownWord, expiration := unknownWord }
  | .current => contents

section Restrict

variable (contents : Contents) (layout : Layout)

@[simp] theorem address_restrict : (contents.restrict layout).address = contents.address := by
  cases layout <;> rfl

@[simp] theorem prefixLength_restrict :
    (contents.restrict layout).prefixLength = contents.prefixLength := by
  cases layout <;> rfl

@[simp] theorem flags_restrict : (contents.restrict layout).flags = contents.flags := by
  cases layout <;> rfl

@[simp] theorem scope_restrict : (contents.restrict layout).scope = contents.scope := by
  cases layout <;> rfl

end Restrict

/-- The legacy layout has the first numbers of every layout. -/
theorem restrict_ofRecord (layout : Layout) (addressLength : Nat) (octets : List UInt8) :
    (ofRecord layout addressLength octets).restrict .legacy =
      ofRecord .legacy addressLength octets := by
  simp only [restrict, ofRecord]

/-- What is appended to a record does not change the numbers at the positions of its layout. -/
theorem ofRecord_append {octets : List UInt8}
    (enough : layout.length addressLength ≤ octets.length) (suffix : List UInt8) :
    ofRecord layout addressLength (octets ++ suffix) = ofRecord layout addressLength octets := by
  have legacy := Nat.le_trans (layout.legacy_length_le addressLength) enough
  simp only [ofRecord]
  rw [slice_append (by omega), unsignedAt_append (by omega), unsignedAt_append (by omega),
    signedAt_append (by omega)]
  cases layout with
  | legacy => rfl
  | current =>
    rw [Layout.length_current] at enough
    rw [signedAt_append (by omega), signedAt_append (by omega)]

theorem length_write (contents : Contents) (layout : Layout) :
    (contents.write layout).length = layout.length contents.address.length := by
  cases layout <;>
    simp only [write, Layout.fields, List.flatMap_cons, List.flatMap_nil, writeField,
      List.length_append, List.length_cons, List.length_nil, length_writeNat, length_writeInt,
      Layout.length_legacy, Layout.length_current] <;>
    omega

/-- Numbers that fit are read back from what is written, as far as the layout has them. -/
theorem read?_write {contents : Contents} (fits : contents.Fits) (layout : Layout) :
    read? layout contents.address.length ((contents.write layout).drop 1) =
      some (contents.restrict layout) := by
  have prefixLength := readNat?_writeNat_append fits.prefixLength
  have flags := readNat?_writeNat_append fits.flags
  have scope := readInt?_writeInt_append fits.scope.1 fits.scope.2
  cases layout with
  | legacy =>
    simp only [write, Layout.fields, List.flatMap_cons, List.flatMap_nil, writeField,
      List.cons_append, List.drop_succ_cons, List.drop_zero, read?, take?_append, prefixLength,
      flags, scope, Option.bind_eq_bind, Option.bind_some]
    rfl
  | current =>
    have deprecation := readInt?_writeInt_append fits.deprecation.1 fits.deprecation.2
    have expiration := readInt?_writeInt_append fits.expiration.1 fits.expiration.2
    simp only [write, Layout.fields, List.flatMap_cons, List.flatMap_nil, writeField,
      List.cons_append, List.drop_succ_cons, List.drop_zero, read?, take?_append, prefixLength,
      flags, scope, deprecation, expiration, Option.bind_eq_bind, Option.bind_some]
    rfl

end Contents

end InterfaceAddress.Wire
