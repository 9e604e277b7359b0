import InterfaceAddress.Proofs.Address.Writing
import InterfaceAddress.Proofs.Wire.Compatibility
import Mathlib

/-! # Positions of reads and writes

Records are read and written by pieces whose positions are running sums of their
sizes. Reading by position is reading off the front (`Contents.read?_eq_spans`).
A record with a layout has all the octets that are read, and what is written for
a descriptor fills a buffer of the length that is counted for it, each octet by one
write (`Wire.accesses_inside`).
-/

namespace InterfaceAddress.Wire

/-! ### Spans -/

/-- Neighbouring octets. -/
structure Span where
  start : Nat
  size : Nat
deriving DecidableEq

namespace Span

/-- The position behind a span. -/
def stop (span : Span) : Nat := span.start + span.size

def Contains (span : Span) (position : Nat) : Prop :=
  span.start ≤ position ∧ position < span.stop

def IsDisjoint (span other : Span) : Prop := span.stop ≤ other.start ∨ other.stop ≤ span.start

/-- The octets of a span, if the record has all of them. -/
def read? (span : Span) (record : List UInt8) : Option (List UInt8) :=
  if span.stop ≤ record.length then some (slice record span.start span.size) else none

theorem read?_of_le {span : Span} {record : List UInt8} (inside : span.stop ≤ record.length) :
    span.read? record = some (slice record span.start span.size) := if_pos inside

end Span

/-- Spans of these sizes, one behind the other from an offset on. -/
def spansFrom (offset : Nat) : List Nat → List Span
  | [] => []
  | size :: sizes => ⟨offset, size⟩ :: spansFrom (offset + size) sizes

section Spans

variable {span : Span} {sizes : List Nat} {offset : Nat}

@[simp] theorem length_spansFrom (offset : Nat) (sizes : List Nat) :
    (spansFrom offset sizes).length = sizes.length := by
  induction sizes generalizing offset with
  | nil => rfl
  | cons size sizes ih => rw [spansFrom, List.length_cons, List.length_cons, ih]

theorem le_start_of_mem_spansFrom (member : span ∈ spansFrom offset sizes) :
    offset ≤ span.start := by
  induction sizes generalizing offset with
  | nil => cases member
  | cons size sizes ih =>
    rcases List.mem_cons.mp member with rfl | later
    · exact Nat.le_refl offset
    · exact Nat.le_trans (Nat.le_add_right offset size) (ih later)

theorem stop_le_of_mem_spansFrom (member : span ∈ spansFrom offset sizes) :
    span.stop ≤ offset + sizes.sum := by
  induction sizes generalizing offset with
  | nil => cases member
  | cons size sizes ih =>
    rw [List.sum_cons, ← Nat.add_assoc]
    rcases List.mem_cons.mp member with rfl | later
    · exact Nat.le_add_right (offset + size) sizes.sum
    · exact ih later

theorem pairwise_isDisjoint_spansFrom (offset : Nat) (sizes : List Nat) :
    (spansFrom offset sizes).Pairwise Span.IsDisjoint := by
  induction sizes generalizing offset with
  | nil => exact .nil
  | cons size sizes ih =>
    refine .cons (fun span later => .inl ?_) (ih (offset + size))
    exact le_start_of_mem_spansFrom later

/-- Spans leave no gap up to the sum of their sizes. -/
theorem exists_contains_spansFrom {position : Nat} (low : offset ≤ position)
    (high : position < offset + sizes.sum) : ∃ span ∈ spansFrom offset sizes,
      span.Contains position := by
  induction sizes generalizing offset with
  | nil => exact absurd high (Nat.not_lt.mpr low)
  | cons size sizes ih =>
    by_cases first : position < offset + size
    · exact ⟨⟨offset, size⟩, List.mem_cons_self, low, first⟩
    · rw [List.sum_cons, ← Nat.add_assoc] at high
      obtain ⟨span, later, contains⟩ := ih (Nat.not_lt.mp first) high
      exact ⟨span, List.mem_cons_of_mem _ later, contains⟩

end Spans

/-! ### Reading -/

/-- Pieces of these sizes off the front of octets, if there are that many. -/
def takeAll? : List Nat → List UInt8 → Option (List (List UInt8))
  | [], _ => some []
  | size :: sizes, octets => do
    let (piece, octets) ← take? size octets
    return piece :: (← takeAll? sizes octets)

/-- Pieces are taken off the front where their spans are read. -/
theorem mapM_read?_spansFrom {record : List UInt8} {offset : Nat} (inside : offset ≤ record.length)
    (sizes : List Nat) :
    (spansFrom offset sizes).mapM (·.read? record) = takeAll? sizes (record.drop offset) := by
  induction sizes generalizing offset with
  | nil => rfl
  | cons size sizes ih =>
    rw [spansFrom, List.mapM_cons, takeAll?]
    by_cases enough : offset + size ≤ record.length
    · have read : Span.read? ⟨offset, size⟩ record = some (slice record offset size) :=
        Span.read?_of_le enough
      rw [read, take?_drop enough, ih enough]
      rfl
    · have short : ¬ size ≤ (record.drop offset).length := by
        rw [List.length_drop]
        omega
      have unread : Span.read? ⟨offset, size⟩ record = none := if_neg enough
      rw [unread, take?, if_neg short]
      rfl

/-- The sizes of what is read and written: the octet that counts the others, these octets, and the
fields of the layout that follow. -/
def Layout.sizes (layout : Layout) (addressLength : Nat) : List Nat :=
  1 :: addressLength :: layout.fields.tail.map (Field.size addressLength)

@[simp] theorem Layout.sum_sizes (layout : Layout) (addressLength : Nat) :
    (layout.sizes addressLength).sum = layout.length addressLength := by
  cases layout <;>
    simp only [sizes, fields, Field.size, List.tail_cons, List.map_cons, List.map_nil,
      List.sum_cons, List.sum_nil, length_legacy, length_current] <;>
    omega

/-- Where the pieces of a record stand. -/
def Layout.spans (layout : Layout) (addressLength : Nat) : List Span :=
  spansFrom 0 (layout.sizes addressLength)

/-- The numbers that stand in the pieces behind the first octet. -/
def Contents.ofPieces? : List (List UInt8) → Option Contents
  | [address, prefixLength, flags, scope] => some ⟨address, natOfOctets prefixLength,
      natOfOctets flags, intOfOctets scope, unknownWord, unknownWord⟩
  | [address, prefixLength, flags, scope, deprecation, expiration] => some ⟨address,
      natOfOctets prefixLength, natOfOctets flags, intOfOctets scope, intOfOctets deprecation,
      intOfOctets expiration⟩
  | _ => none

theorem Contents.read?_eq_takeAll? (layout : Layout) (addressLength : Nat) (octets : List UInt8) :
    read? layout addressLength octets =
      (takeAll? (layout.sizes addressLength).tail octets).bind ofPieces? := by
  cases layout <;>
    simp only [read?, readNat?, readInt?, takeAll?, ofPieces?, Layout.sizes, Layout.fields,
      Field.size, List.tail_cons, List.map_cons, List.map_nil, Option.bind_eq_bind,
      Option.bind_map, Function.comp_def, Option.pure_def, Option.bind_assoc, Option.bind_some]

/-- The numbers of a record are those in the spans of its layout behind the first octet. -/
theorem Contents.read?_eq_spans (layout : Layout) (addressLength : Nat) (first : UInt8)
    (rest : List UInt8) : read? layout addressLength rest =
      ((layout.spans addressLength).tail.mapM fun span : Span => span.read? (first :: rest)).bind
        ofPieces? := by
  have inside : 1 ≤ (first :: rest).length := Nat.succ_le_succ (Nat.zero_le _)
  have pieces := mapM_read?_spansFrom inside (layout.sizes addressLength).tail
  rw [List.drop_one, List.tail_cons] at pieces
  rw [read?_eq_takeAll?, ← pieces]
  rfl

/-! ### Writing -/

/-- A buffer with octets written from a position on, if they are in range. A position that was
never written has no octet. -/
def put? (buffer : List (Option UInt8)) (start : Nat) (octets : List UInt8) :
    Option (List (Option UInt8)) :=
  if start + octets.length ≤ buffer.length then
    some (buffer.take start ++ octets.map some ++ buffer.drop (start + octets.length))
  else none

/-- A blank buffer of this length after all writes, in their order. -/
def fill? (length : Nat) (writes : List (Span × List UInt8)) : Option (List (Option UInt8)) :=
  writes.foldlM (fun buffer write => put? buffer write.1.start write.2) (.replicate length none)

/-- Every position of the buffer is written by one of the writes only. -/
structure Fills (length : Nat) (writes : List (Span × List UInt8)) : Prop where
  measured : ∀ write ∈ writes, write.2.length = write.1.size
  inside : ∀ write ∈ writes, write.1.stop ≤ length
  disjoint : writes.Pairwise fun write other => write.1.IsDisjoint other.1
  covering : ∀ position < length, ∃ write ∈ writes, write.1.Contains position

/-- What is written behind octets that fill the front of a buffer fills the buffer further. -/
theorem put?_append (written octets : List UInt8) (left : Nat) :
    put? (written.map some ++ .replicate (octets.length + left) none) written.length octets =
      some ((written ++ octets).map some ++ .replicate left none) := by
  have inside : written.length + octets.length ≤
      (written.map some ++ .replicate (octets.length + left) none).length := by
    rw [List.length_append, List.length_map, List.length_replicate]
    omega
  rw [put?, if_pos inside, List.take_left' (List.length_map _), List.drop_append,
    List.drop_eq_nil_of_le (by rw [List.length_map]; omega), List.drop_replicate]
  simp

theorem foldlM_put? (written : List UInt8) (pieces : List (List UInt8)) :
    ((spansFrom written.length (pieces.map List.length)).zip pieces).foldlM
        (fun buffer write => put? buffer write.1.start write.2)
        (written.map some ++ .replicate (pieces.map List.length).sum none) =
      some ((written ++ pieces.flatten).map some) := by
  induction pieces generalizing written with
  | nil => simp [spansFrom]
  | cons octets pieces ih =>
    have rest := ih (written ++ octets)
    rw [List.length_append] at rest
    rw [List.map_cons, spansFrom, List.zip_cons_cons, List.foldlM_cons, List.sum_cons, put?_append,
      List.flatten_cons, ← List.append_assoc]
    exact rest

theorem length_of_mem_zip_spansFrom {offset : Nat} {pieces : List (List UInt8)}
    {write : Span × List UInt8}
    (member : write ∈ (spansFrom offset (pieces.map List.length)).zip pieces) :
    write.2.length = write.1.size := by
  induction pieces generalizing offset with
  | nil => cases member
  | cons octets pieces ih =>
    rw [List.map_cons, spansFrom, List.zip_cons_cons] at member
    rcases List.mem_cons.mp member with rfl | later
    · rfl
    · exact ih later

/-- Pieces written one behind the other fill a buffer of the sum of their lengths. -/
theorem fills_zip_spansFrom (pieces : List (List UInt8)) :
    Fills (pieces.map List.length).sum
      ((spansFrom 0 (pieces.map List.length)).zip pieces) := by
  have spans : ((spansFrom 0 (pieces.map List.length)).zip pieces).map Prod.fst =
      spansFrom 0 (pieces.map List.length) := by
    apply List.map_fst_zip
    rw [length_spansFrom, List.length_map]
  constructor
  case measured => exact fun write member => length_of_mem_zip_spansFrom member
  case inside =>
    intro write member
    have stop := stop_le_of_mem_spansFrom (List.of_mem_zip member).1
    rwa [Nat.zero_add] at stop
  case disjoint =>
    have disjoint := pairwise_isDisjoint_spansFrom 0 (pieces.map List.length)
    rwa [← spans, List.pairwise_map] at disjoint
  case covering =>
    intro position below
    obtain ⟨span, member, contains⟩ := exists_contains_spansFrom (Nat.zero_le position)
      (by rwa [Nat.zero_add])
    rw [← spans] at member
    obtain ⟨write, written, rfl⟩ := List.mem_map.mp member
    exact ⟨write, written, contains⟩

namespace Contents

/-- The octets that are written one after the other. -/
def pieces (contents : Contents) (layout : Layout) : List (List UInt8) :=
  [.ofNat contents.address.length] :: contents.address ::
    layout.fields.tail.map contents.writeField

/-- The writes of a record, each at the position where its piece stands. -/
def writes (contents : Contents) (layout : Layout) : List (Span × List UInt8) :=
  (layout.spans contents.address.length).zip (contents.pieces layout)

variable (contents : Contents) (layout : Layout)

/-- The fields are as long as their layout says. -/
theorem map_length_pieces : (contents.pieces layout).map List.length =
    layout.sizes contents.address.length := by
  cases layout <;>
    simp only [pieces, Layout.sizes, Layout.fields, Field.size, writeField, List.tail_cons,
      List.map_cons, List.map_nil, List.length_cons, List.length_nil, length_writeNat,
      length_writeInt]

theorem flatten_pieces : (contents.pieces layout).flatten = contents.write layout := by
  cases layout <;>
    simp only [pieces, write, Layout.fields, writeField, List.tail_cons, List.map_cons,
      List.map_nil, List.flatten_cons, List.flatten_nil, List.flatMap_cons, List.flatMap_nil,
      List.cons_append, List.nil_append]

theorem fills_writes :
    Fills (layout.length contents.address.length) (contents.writes layout) := by
  have filled := fills_zip_spansFrom (contents.pieces layout)
  rwa [map_length_pieces, Layout.sum_sizes] at filled

theorem fill?_writes : fill? (layout.length contents.address.length) (contents.writes layout) =
    some ((contents.write layout).map some) := by
  have filled := foldlM_put? [] (contents.pieces layout)
  rwa [map_length_pieces, Layout.sum_sizes, flatten_pieces] at filled

theorem address_of_contents {descriptor : Descriptor}
    (accepted : descriptor.contents = .ok contents) :
    contents.address = descriptor.address.octets := by
  obtain ⟨_, _, -, -, same⟩ := Descriptor.contents_eq_ok_iff.mp accepted
  rw [same]

end Contents

/-! ### Records and descriptors -/

/-- A record of the length of its layout has all spans of the layout. -/
theorem Layout.stop_le_of_mem_spans {layout : Layout} {addressLength : Nat} {span : Span}
    (member : span ∈ layout.spans addressLength) : span.stop ≤ layout.length addressLength := by
  have stop := stop_le_of_mem_spansFrom member
  rwa [Nat.zero_add, sum_sizes] at stop

/-- Where a layout was found, nothing that is read is missing. -/
theorem exists_read_of_resolveLayout {first : UInt8} {rest : List UInt8} {compatible : Bool}
    {layout : Layout}
    (resolved : resolveLayout (first :: rest).length first.toNat compatible = .ok layout) :
    ∃ contents, Contents.read? layout first.toNat rest = some contents ∧
      ∀ family, Family.ofOctetCount? first.toNat = some family →
        readDraft (first :: rest) compatible = contents.toDraft.map (layout, ·) := by
  refine ⟨.ofRecord layout first.toNat (first :: rest),
    Contents.read?_eq_ofRecord (length_le_of_resolveLayout resolved), fun family known => ?_⟩
  have counted := Family.ofOctetCount?_eq_some_iff.mp known
  rw [counted] at resolved ⊢
  exact readDraft_of_resolveLayout counted resolved

/-- The record of an accepted descriptor is what its writes leave in a buffer of the length that
is counted. -/
theorem exists_encode_of_contents {descriptor : Descriptor} {contents : Contents}
    (accepted : descriptor.contents = .ok contents) (target : Layout) :
    ∃ record, descriptor.encode target = .ok record ∧
      record.length = target.length descriptor.address.octets.length ∧
      fill? (target.length descriptor.address.octets.length) (contents.writes target) =
        some (record.map some) := by
  rw [← contents.address_of_contents accepted]
  refine ⟨contents.write target, ?_, contents.length_write target, contents.fill?_writes target⟩
  rw [Descriptor.encode, accepted]
  rfl

/-- **All accesses are inside.** The numbers of a record are read from the spans of its layout
behind the first octet. Once the layout is found, the record has all of these spans and none of the
readers fails. What is written for a descriptor fills a buffer of the length of the layout: each
write is in range, no two overlap, and no position is left blank. -/
theorem accesses_inside :
    (∀ {first : UInt8} {rest : List UInt8} {compatible : Bool} {layout : Layout},
      resolveLayout (first :: rest).length first.toNat compatible = .ok layout →
      (Contents.read? layout first.toNat rest =
        ((layout.spans first.toNat).tail.mapM fun span : Span => span.read? (first :: rest)).bind
          Contents.ofPieces?) ∧
      (∀ span ∈ layout.spans first.toNat, span.stop ≤ (first :: rest).length ∧
        ∃ octets, span.read? (first :: rest) = some octets ∧ octets.length = span.size) ∧
      ∃ read, Contents.read? layout first.toNat rest = some read ∧
        ∀ family, Family.ofOctetCount? first.toNat = some family →
          readDraft (first :: rest) compatible = read.toDraft.map (layout, ·)) ∧
    ∀ {descriptor : Descriptor} {contents : Contents}, descriptor.contents = .ok contents →
      ∀ target : Layout,
        let addressLength := descriptor.address.octets.length
        target.roundedLength (.ofNat addressLength) = .ofNat (target.length addressLength) ∧
        Fills (target.length addressLength) (contents.writes target) ∧
        ∃ record, descriptor.encode target = .ok record ∧
          record.length = target.length addressLength ∧
          fill? (target.length addressLength) (contents.writes target) =
            some (record.map some) := by
  constructor
  · intro first rest compatible layout resolved
    refine ⟨Contents.read?_eq_spans layout first.toNat first rest, fun span member => ?_,
      exists_read_of_resolveLayout resolved⟩
    have inside : span.stop ≤ (first :: rest).length :=
      Nat.le_trans (Layout.stop_le_of_mem_spans member) (length_le_of_resolveLayout resolved)
    exact ⟨inside, _, Span.read?_of_le inside, length_slice inside⟩
  · intro descriptor contents accepted target
    refine ⟨target.roundedLength_octetCount descriptor.address, ?_,
      exists_encode_of_contents accepted target⟩
    rw [← contents.address_of_contents accepted]
    exact contents.fills_writes target

/-- A legacy record that ends with its scope, and an embedding address that takes 42 octets. -/
theorem accesses_inside_embedding :
    let record : List UInt8 := [4, 192, 0, 2, 1, 24, 0, 0, 0, 1, 255, 255, 255, 254]
    let descriptor : Descriptor := ⟨.embedding, 96, 128, 0, ⟨.instant 1000, .permanent⟩⟩
    let contents : Contents := ⟨Address.embedding.octets, 96, 128, 0, 1000, permanentWord⟩
    resolveLayout record.length 4 false = .ok .legacy ∧ descriptor.contents = .ok contents ∧
      (∃ read, Contents.read? .legacy 4 record.tail = some read) ∧
      Fills 42 (contents.writes .current) := by
  intro record descriptor contents
  have resolved : resolveLayout record.length (UInt8.toNat 4) false = .ok .legacy := by
    decide
  have accepted : descriptor.contents = .ok contents := by
    decide +kernel
  obtain ⟨-, -, read, found, -⟩ := accesses_inside.1 resolved
  exact ⟨resolved, accepted, ⟨read, found⟩, (accesses_inside.2 accepted .current).2.1⟩

end InterfaceAddress.Wire
