import InterfaceAddress.Proofs.Address.Grammar
import Mathlib

/-! # Reading addresses

A sequence of elements has no double colon and does not end in a colon, so the
first double colon of a text is the one of the grammar
(`IsSequence.splitAtElision?_append`). With the brackets, the zone and the blanks
around it, a text is read exactly if it denotes octets (`read?_eq_some_iff`).
-/

namespace InterfaceAddress.Address

variable {quadAllowed : Bool} {text rest part : List Char} {groups : List Nat}
  {octets : List UInt8}

/-! ### The double colon -/

theorem splitAtElision?_cons {char : Char} (single : char ≠ ':' ∨ rest.head? ≠ some ':') :
    splitAtElision? (char :: rest) =
      (splitAtElision? rest).map fun (left, right) => (char :: left, right) := by
  rw [splitAtElision?]
  rintro others rfl rfl
  rcases single with other | other
  · exact other rfl
  · exact other rfl

/-- A part without a colon stands in front of the double colon. -/
theorem splitAtElision?_append (colonless : ':' ∉ part) :
    splitAtElision? (part ++ rest) =
      (splitAtElision? rest).map fun (left, right) => (part ++ left, right) := by
  induction part with
  | nil => simp
  | cons char part ih =>
    rw [List.mem_cons, not_or] at colonless
    rw [List.cons_append, splitAtElision?_cons (.inl (Ne.symm colonless.1)), ih colonless.2,
      Option.map_map]
    rfl

theorem eq_append_of_splitAtElision? {left right : List Char}
    (found : splitAtElision? text = some (left, right)) : text = left ++ ':' :: ':' :: right := by
  induction text generalizing left with
  | nil => cases found
  | cons char rest ih =>
    by_cases double : char = ':' ∧ rest.head? = some ':'
    · obtain ⟨rfl, second⟩ := double
      obtain ⟨others, rfl⟩ := List.head?_eq_some_iff.mp second
      cases found
      rfl
    · rw [splitAtElision?_cons (not_and_or.mp double)] at found
      obtain ⟨⟨front, back⟩, foundRest, given⟩ := Option.map_eq_some_iff.mp found
      cases given
      rw [ih foundRest, List.cons_append]

/-! ### Sequences -/

theorem head?_intercalate_append {separator : Char} {parts : List (List Char)}
    (nonempty : part ≠ []) :
    ([separator].intercalate (part :: parts) ++ rest).head? = part.head? := by
  cases parts with
  | nil => rw [List.intercalate_singleton, List.head?_append_of_ne_nil _ nonempty]
  | cons second others =>
    rw [List.intercalate_cons_cons, List.append_assoc, List.append_assoc,
      List.head?_append_of_ne_nil _ nonempty]

/-- The double colon is searched behind a sequence. -/
theorem IsSequence.splitAtElision?_append (isSequence : IsSequence quadAllowed text groups) :
    splitAtElision? (text ++ rest) =
      (splitAtElision? rest).map fun (left, right) => (text ++ left, right) := by
  obtain ⟨elements, rfl, areElements⟩ := isSequence
  have regular := areElements.ne_nil_and_not_mem
  clear areElements
  induction elements with
  | nil => simp
  | cons first others ih =>
    have firstRegular := regular first List.mem_cons_self
    have othersRegular : ∀ element ∈ others, element ≠ [] ∧ ':' ∉ element := fun element member =>
      regular element (List.mem_cons_of_mem first member)
    cases others with
    | nil =>
      rw [List.intercalate_singleton]
      exact Address.splitAtElision?_append firstRegular.2
    | cons second more =>
      -- The element behind a colon is not empty, so no second colon follows.
      have noColon : ([':'].intercalate (second :: more) ++ rest).head? ≠ some ':' := by
        obtain ⟨nonempty, colonless⟩ := othersRegular second List.mem_cons_self
        rw [head?_intercalate_append nonempty]
        intro colon
        exact colonless (List.mem_of_mem_head? colon)
      rw [List.intercalate_cons_cons, List.append_assoc, List.append_assoc,
        Address.splitAtElision?_append firstRegular.2, List.singleton_append,
        splitAtElision?_cons (.inr noColon), ih othersRegular, Option.map_map, Option.map_map]
      simp only [List.append_assoc]
      rfl

theorem IsSequence.splitAtElision?_eq_none (isSequence : IsSequence quadAllowed text groups) :
    splitAtElision? text = none := by
  have found : splitAtElision? (text ++ []) = none := isSequence.splitAtElision?_append
  rwa [List.append_nil] at found

theorem IsSequence.splitAtElision?_eq_some (isSequence : IsSequence quadAllowed text groups)
    (right : List Char) : splitAtElision? (text ++ ':' :: ':' :: right) = some (text, right) := by
  rw [isSequence.splitAtElision?_append, splitAtElision?, Option.map_some]
  simp only [List.append_nil]

/-- A side of the double colon is read if it is a sequence. -/
theorem readSide?_eq_some_iff : readSide? quadAllowed text = some octets ↔
    ∃ groups, IsSequence quadAllowed text groups ∧ octets = octetsOfGroups groups := by
  rw [readSide?, readGroups?_eq_some_iff]
  constructor
  · rintro ⟨groups, areElements, rfl⟩
    refine ⟨groups, ⟨_, ?_, areElements⟩, rfl⟩
    by_cases empty : text = []
    · rw [if_pos empty, empty]
      rfl
    · rw [if_neg empty, List.intercalate_splitOn]
  · rintro ⟨groups, ⟨elements, rfl, areElements⟩, rfl⟩
    refine ⟨groups, ?_, rfl⟩
    have regular := areElements.ne_nil_and_not_mem
    cases elements with
    | nil => exact areElements
    | cons first others =>
      have firstNonempty := (regular first List.mem_cons_self).1
      have nonempty : [':'].intercalate (first :: others) ≠ [] := by
        intro empty
        have begins : ([':'].intercalate (first :: others) ++ []).head? = first.head? :=
          head?_intercalate_append firstNonempty
        rw [empty] at begins
        exact firstNonempty (List.head?_eq_none_iff.mp begins.symm)
      rw [if_neg nonempty, List.splitOn_intercalate ':'
        (fun element member => (regular element member).2) (List.cons_ne_nil first others)]
      exact areElements

/-! ### Groups in full and with a double colon -/

theorem octetsOfGroups_elided (left right : List Nat) :
    octetsOfGroups left ++ List.replicate (16 - (2 * left.length + 2 * right.length)) 0 ++
        octetsOfGroups right =
      octetsOfGroups (left ++ List.replicate (8 - (left.length + right.length)) 0 ++ right) := by
  have zeros : 16 - (2 * left.length + 2 * right.length) =
      2 * (8 - (left.length + right.length)) := by
    omega
  rw [octetsOfGroups_append, octetsOfGroups_append, octetsOfGroups_replicate_zero, zeros]

/-- Sixteen octets are read exactly from the groups of the grammar. -/
theorem readGroupText?_eq_some_iff : readGroupText? text = some octets ↔
    ∃ groups, AreGroups text groups ∧ octets = octetsOfGroups groups := by
  constructor
  · intro read
    rw [readGroupText?] at read
    cases found : splitAtElision? text with
    | none =>
      rw [found] at read
      obtain ⟨readText, sixteen⟩ := Option.filter_eq_some_iff.mp read
      obtain ⟨groups, isSequence, rfl⟩ := readSide?_eq_some_iff.mp readText
      rw [length_octetsOfGroups, decide_eq_true_eq] at sixteen
      exact ⟨groups, .full isSequence (by omega), rfl⟩
    | some sides =>
      obtain ⟨leftText, rightText⟩ := sides
      obtain rfl := eq_append_of_splitAtElision? found
      simp only [found] at read
      split_ifs at read with again
      · cases read
      obtain ⟨leftOctets, readLeft, read⟩ := Option.bind_eq_some_iff.mp read
      obtain ⟨rightOctets, readRight, read⟩ := Option.bind_eq_some_iff.mp read
      obtain ⟨left, before, rfl⟩ := readSide?_eq_some_iff.mp readLeft
      obtain ⟨right, after, rfl⟩ := readSide?_eq_some_iff.mp readRight
      rw [length_octetsOfGroups, length_octetsOfGroups] at read
      split_ifs at read with tooMany
      · cases read
      cases read
      exact ⟨_, .elided before after (by omega), octetsOfGroups_elided left right⟩
  · rintro ⟨groups, areGroups, rfl⟩
    cases areGroups with
    | full isSequence eight =>
      rw [readGroupText?, isSequence.splitAtElision?_eq_none,
        readSide?_eq_some_iff.mpr ⟨groups, isSequence, rfl⟩]
      simp [length_octetsOfGroups, eight]
    | @elided leftText rightText left right before after atMostSeven =>
      have readLeft := readSide?_eq_some_iff.mpr ⟨left, before, rfl⟩
      have readRight := readSide?_eq_some_iff.mpr ⟨right, after, rfl⟩
      have room : ¬ 14 < 2 * left.length + 2 * right.length := by omega
      simp only [readGroupText?, before.splitAtElision?_eq_some, after.splitAtElision?_eq_none,
        Option.isSome_none, Bool.false_eq_true, ↓reduceIte, readLeft, readRight,
        Option.bind_eq_bind, Option.bind_some, length_octetsOfGroups, if_neg room,
        octetsOfGroups_elided]
      rfl

theorem AreGroups.length_eq (areGroups : AreGroups text groups) : groups.length = 8 := by
  cases areGroups with
  | full isSequence eight => exact eight
  | elided before after atMostSeven =>
    rw [List.length_append, List.length_append, List.length_replicate]
    omega

/-! ### Brackets and zones -/

theorem dropBrackets_enclosed (inside : List Char) :
    dropBrackets ('[' :: (inside ++ [']'])) = inside := by
  rw [dropBrackets, if_pos List.getLast?_concat, List.dropLast_concat]

theorem dropBrackets_of_not_enclosed (notEnclosed : ∀ inside, text ≠ '[' :: (inside ++ [']'])) :
    dropBrackets text = text := by
  unfold dropBrackets
  split
  case h_1 rest =>
    by_cases closed : rest.getLast? = some ']'
    · have whole := List.dropLast_append_getLast? ']' closed
      exact absurd (congrArg ('[' :: ·) whole.symm) (notEnclosed rest.dropLast)
    · rw [if_neg closed]
  case h_2 => rfl

theorem dropBrackets_eq_iff {inside : List Char} :
    dropBrackets text = inside ↔ IsInside text inside := by
  constructor
  · rintro rfl
    by_cases enclosed : ∃ inside, text = '[' :: (inside ++ [']'])
    · obtain ⟨inside, rfl⟩ := enclosed
      rw [dropBrackets_enclosed]
      exact .enclosed inside
    · rw [dropBrackets_of_not_enclosed (not_exists.mp enclosed)]
      exact .bare (not_exists.mp enclosed)
  · intro isInside
    cases isInside with
    | enclosed inside => exact dropBrackets_enclosed inside
    | bare notEnclosed => exact dropBrackets_of_not_enclosed notEnclosed

theorem dropZone_eq_iff {body : List Char} : dropZone text = body ↔ IsWithoutZone text body := by
  unfold dropZone
  constructor
  · rintro rfl
    constructor
    · intro percent
      have differs := List.mem_takeWhile_imp percent
      simp at differs
    have whole := List.takeWhile_append_dropWhile (p := fun char => decide (char ≠ '%')) (l := text)
    have stopped := List.head?_dropWhile_not (fun char => decide (char ≠ '%')) text
    cases zone : text.dropWhile (fun char => decide (char ≠ '%')) with
    | nil =>
      rw [zone, List.append_nil] at whole
      exact .inl whole.symm
    | cons first rest =>
      rw [zone] at whole stopped
      obtain rfl : first = '%' := by simpa using stopped
      exact .inr ⟨rest, whole.symm⟩
  · rintro ⟨absent, rfl | ⟨zone, rfl⟩⟩
    · apply List.takeWhile_eq_self_iff.mpr
      intro char member
      exact decide_eq_true (fun percent => absent (percent ▸ member))
    · have kept : ∀ char ∈ body, decide (char ≠ '%') = true := by
        intro char member
        exact decide_eq_true (fun percent => absent (percent ▸ member))
      rw [List.takeWhile_append_of_pos kept, List.takeWhile_cons_of_neg (by decide),
        List.append_nil]

/-! ### Addresses -/

theorem Denotes.length_octets (denotes : Denotes text octets) :
    octets.length = 4 ∨ octets.length = 16 := by
  cases denotes with
  | quad isTrimmed colonless isQuad =>
    obtain ⟨a, b, c, d, rfl⟩ := isQuad.exists_eq
    exact .inl rfl
  | groups isTrimmed colon isInside isWithoutZone areGroups =>
    rw [length_octetsOfGroups, areGroups.length_eq]
    exact .inr rfl

theorem ofOctets?_eq_some_iff {collapsing : Bool} {address : Address} :
    ofOctets? octets collapsing = some address ↔
      ∃ denoted : Address, denoted.octets = octets ∧
        address = if collapsing then denoted.collapse else denoted := by
  unfold ofOctets?
  constructor
  · intro made
    by_cases known : octets.length = 4 ∨ octets.length = 16
    · rw [dif_pos known] at made
      cases made
      exact ⟨⟨octets, known⟩, rfl, rfl⟩
    · rw [dif_neg known] at made
      cases made
  · rintro ⟨denoted, rfl, rfl⟩
    rw [dif_pos denoted.length_octets]

theorem read?_eq_some_iff {text : String} {collapsing : Bool} {address : Address} :
    read? text collapsing = some address ↔
      ∃ octets, Denotes text.toList octets ∧ ofOctets? octets collapsing = some address := by
  rw [read?, readTrimmed?, List.contains_eq_mem]
  have isTrimmed := Text.isTrimmed_trim text.toList
  by_cases colon : ':' ∈ Text.trim text.toList
  · rw [if_pos (decide_eq_true colon), Option.bind_eq_bind, Option.bind_eq_some_iff]
    constructor
    · rintro ⟨octets, read, made⟩
      obtain ⟨groups, areGroups, rfl⟩ := readGroupText?_eq_some_iff.mp read
      exact ⟨_, .groups isTrimmed colon (dropBrackets_eq_iff.mp rfl) (dropZone_eq_iff.mp rfl)
        areGroups, made⟩
    · rintro ⟨octets, denotes, made⟩
      refine ⟨octets, ?_, made⟩
      cases denotes with
      | quad trimmed colonless isQuad =>
        rw [Text.trim_eq_iff.mpr trimmed] at colon
        exact absurd colon colonless
      | groups trimmed _ isInside isWithoutZone areGroups =>
        rw [Text.trim_eq_iff.mpr trimmed, dropBrackets_eq_iff.mpr isInside,
          dropZone_eq_iff.mpr isWithoutZone]
        exact readGroupText?_eq_some_iff.mpr ⟨_, areGroups, rfl⟩
  · rw [if_neg (by simpa using colon), Option.bind_eq_bind, Option.bind_eq_some_iff]
    constructor
    · rintro ⟨octets, read, made⟩
      exact ⟨octets, .quad isTrimmed colon (readQuad?_eq_some_iff.mp read), made⟩
    · rintro ⟨octets, denotes, made⟩
      refine ⟨octets, ?_, made⟩
      cases denotes with
      | quad trimmed colonless isQuad =>
        rw [Text.trim_eq_iff.mpr trimmed]
        exact readQuad?_eq_some_iff.mpr isQuad
      | groups trimmed inColon isInside isWithoutZone areGroups =>
        rw [Text.trim_eq_iff.mpr trimmed] at colon
        exact absurd inColon colon

/-- **Reading accepts the grammar of addresses.** What a text denotes is read, collapsed on request,
and a text that denotes nothing is not read. -/
theorem read?_iff_denotes (text : String) (collapsing : Bool) :
    (∀ address, read? text collapsing = some address ↔
      ∃ denoted : Address, Denotes text.toList denoted.octets ∧
        address = if collapsing then denoted.collapse else denoted) ∧
    (read? text collapsing = none ↔ ∀ octets, ¬ Denotes text.toList octets) := by
  constructor
  · intro address
    rw [read?_eq_some_iff]
    constructor
    · rintro ⟨octets, denotes, made⟩
      obtain ⟨denoted, rfl, given⟩ := ofOctets?_eq_some_iff.mp made
      exact ⟨denoted, denotes, given⟩
    · rintro ⟨denoted, denotes, given⟩
      exact ⟨denoted.octets, denotes, ofOctets?_eq_some_iff.mpr ⟨denoted, rfl, given⟩⟩
  · rw [Option.eq_none_iff_forall_ne_some]
    constructor
    · intro unread octets denotes
      let denoted : Address := ⟨octets, denotes.length_octets⟩
      exact unread _ (read?_eq_some_iff.mpr
        ⟨octets, denotes, ofOctets?_eq_some_iff.mpr ⟨denoted, rfl, rfl⟩⟩)
    · intro undenoted address read
      obtain ⟨octets, denotes, -⟩ := read?_eq_some_iff.mp read
      exact undenoted octets denotes

example : (read? "[::ffff:192.0.2.1%eth0]" true).map Address.octets = some [192, 0, 2, 1] := by
  decide +kernel

end InterfaceAddress.Address
