import InterfaceAddress.Proofs.Json.Numeral
import Mathlib

/-! # JSON text is read back

The text of a value is read as the value without what JSON does not have: absent members are
gone, and other absent parts and numbers that are not finite are null (`Json.read?_json`). Reading
goes through the text as writing does, and twice the length of a text is deep enough for it.
-/

namespace InterfaceAddress

/-! ### What JSON has of a value -/

mutual

/-- What is read where a value was written. -/
def Value.afterJson : Value → Value
  | .absent => .null
  | .null => .null
  | .bool value => .bool value
  | .number value => (Json.scalar? (Json.number value)).getD .null
  | .text value => .text value
  | .list items => .list (itemsAfterJson items)
  | .object members => .object (membersAfterJson members)

def Value.itemsAfterJson : List Value → List Value
  | [] => []
  | item :: rest => item.afterJson :: itemsAfterJson rest

/-- What is read where members were written; absent ones are not written. -/
def Value.membersAfterJson : List (String × Value) → List (String × Value)
  | [] => []
  | (name, value) :: rest =>
    if value.isAbsent then membersAfterJson rest
    else (name, value.afterJson) :: membersAfterJson rest

end

/-- A member that is not absent is found again. -/
theorem Value.lookup_membersAfterJson {members : Members} {name : String} {value : Value}
    (found : members.lookup name = some value) (present : value.isAbsent = false) :
    (membersAfterJson members).lookup name = some value.afterJson := by
  induction members with
  | nil => cases found
  | cons member rest ih =>
    obtain ⟨first, held⟩ := member
    rw [membersAfterJson]
    by_cases same : name = first
    · rw [same, List.lookup_cons_self] at found
      cases found
      rw [if_neg (Bool.eq_false_iff.mp present), same, List.lookup_cons_self]
    · rw [List.lookup_cons, beq_false_of_ne same] at found
      split
      · exact ih found
      · rw [List.lookup_cons, beq_false_of_ne same]
        exact ih found

/-- What is read has the names that were written, in their order. -/
theorem Value.sublist_membersAfterJson (members : Members) :
    ((membersAfterJson members).map Prod.fst).Sublist (members.map Prod.fst) := by
  induction members with
  | nil => exact .slnil
  | cons member rest ih =>
    obtain ⟨name, value⟩ := member
    rw [membersAfterJson]
    split
    · exact ih.cons name
    · exact ih.cons_cons name

namespace Json

variable {rest : List Char} {depth : Nat}

/-! ### Strings -/

theorem unescape?_of_shortEscape? {char letter : Char} (short : shortEscape? char = some letter) :
    unescape? letter = some char ∧ letter ≠ 'u' := by
  unfold shortEscape? at short
  split at short <;> cases short <;> exact ⟨rfl, by decide⟩

/-- An escaped character is read as its code. -/
theorem codeUnits?_escape (char : Char) (rest : List Char) : codeUnits? (escape char ++ rest) =
    (codeUnits? rest).map fun (units, rest) => (char.toNat :: units, rest) := by
  unfold escape
  cases short : shortEscape? char with
  | some letter =>
    obtain ⟨unescaped, notCode⟩ := unescape?_of_shortEscape? short
    rw [List.cons_append, List.singleton_append, codeUnits?, unescaped]
    · cases codeUnits? rest <;> rfl
    · exact fun _ _ _ _ _ same => absurd same notCode
  | none =>
    by_cases control : char.toNat < 0x20
    · have code : ∀ value < 0x20, Text.ofHexDigits?
          ['0', '0', (value / 16).digitChar, (value % 16).digitChar] = some value := by
        decide
      simp only [if_pos control, List.cons_append, List.nil_append]
      rw [codeUnits?, code _ control]
      cases codeUnits? rest <;> rfl
    · have plain : char ≠ '"' ∧ char ≠ '\\' := by
        constructor <;> rintro rfl <;> cases short
      simp only [if_neg control, List.singleton_append]
      rw [codeUnits?, if_neg (not_or.mpr ⟨control, plain.2⟩)]
      · cases codeUnits? rest <;> rfl
      · exact plain.1
      · exact fun _ _ _ _ _ same => absurd same plain.2
      · exact fun _ _ same => absurd same plain.2

theorem codeUnits?_flatMap_escape (text : List Char) (rest : List Char) :
    codeUnits? (text.flatMap escape ++ '"' :: rest) = some (text.map Char.toNat, rest) := by
  induction text with
  | nil => exact codeUnits?.eq_2 rest
  | cons char text ih =>
    rw [List.flatMap_cons, List.append_assoc, codeUnits?_escape, ih]
    rfl

/-- The codes of characters are not surrogates. -/
theorem joinUnits_map_toNat (text : List Char) : joinUnits (text.map Char.toNat) = text := by
  have valid (char : Char) : char.toNat.isValidChar := char.valid
  have single (char : Char) :
      (if char.toNat.isValidChar then Char.ofNat char.toNat else '\uFFFD') = char := by
    rw [if_pos (valid char), Char.ofNat_toNat]
  induction text with
  | nil => rfl
  | cons first rest ih =>
    cases rest with
    | nil => rw [List.map_singleton, joinUnits, single]
    | cons second more =>
      have notSurrogate : ¬ (0xd800 ≤ first.toNat ∧ first.toNat < 0xdc00 ∧
          0xdc00 ≤ second.toNat ∧ second.toNat < 0xe000) := by
        rintro ⟨low, high, -⟩
        rcases valid first with below | above
        · exact absurd low (Nat.not_le.mpr below)
        · exact absurd above.1 (by omega)
      rw [List.map_cons, List.map_cons, joinUnits, if_neg notSurrogate, single]
      exact congrArg (first :: ·) ih

theorem string?_quote (text : String) (rest : List Char) :
    string? (text.toList.flatMap escape ++ '"' :: rest) = some (text, rest) := by
  simp only [string?, codeUnits?_flatMap_escape, Option.map_some, joinUnits_map_toNat,
    String.ofList_toList]

theorem quote_append (text : String) (rest : List Char) :
    quote text ++ rest = '"' :: (text.toList.flatMap escape ++ '"' :: rest) := by
  rw [quote, List.append_assoc, List.singleton_append, List.cons_append]

/-! ### Values -/

/-- A text that does not go on with a word. -/
def EndsWord (rest : List Char) : Prop := ∀ char ∈ rest.head?, isWordChar char = false

theorem skipSpace_cons {first : Char} (notSpace : isSpace first = false) (rest : List Char) :
    skipSpace (first :: rest) = first :: rest :=
  List.dropWhile_cons_of_neg (Bool.eq_false_iff.mp notSpace)

/-- The characters of words are no blanks and none that begin or end another value. -/
theorem isWordChar_cases {char : Char} (isWord : isWordChar char = true) : isSpace char = false ∧
    char ≠ '"' ∧ char ≠ '[' ∧ char ≠ '{' ∧ char ≠ ']' := by
  refine ⟨?_, ?_, ?_, ?_, ?_⟩
  · unfold isSpace
    by_contra space
    simp only [Bool.not_eq_false, Bool.or_eq_true, decide_eq_true_eq] at space
    rcases space with ((rfl | rfl) | rfl) | rfl <;> cases isWord
  all_goals
    rintro rfl
    cases isWord

theorem value?_word {word : List Char} {value : Value} (nonempty : word ≠ [])
    (isWord : ∀ char ∈ word, isWordChar char = true) (read : scalar? word = some value)
    (ends : EndsWord rest) (depth : Nat) :
    value? (depth + 1) (word ++ rest) = some (value, rest) := by
  have span := span_append isWord ends
  obtain ⟨first, more, rfl⟩ := List.exists_cons_of_ne_nil nonempty
  obtain ⟨notSpace, notText, notList, notObject, -⟩ :=
    isWordChar_cases (isWord _ List.mem_cons_self)
  rw [List.cons_append] at span ⊢
  rw [value?, skipSpace_cons notSpace]
  split
  case h_1 same => exact absurd (List.cons.inj same).1 notText
  case h_2 same => exact absurd (List.cons.inj same).1 notList
  case h_3 same => exact absurd (List.cons.inj same).1 notObject
  case h_4 => simp only [span, read, Option.map_some]

section Brackets

variable {first : Char} {text more : List Char} {item value : Value} {items : List Value}
  {members : Members} {name : String}

theorem value?_list (notSpace : isSpace first = false) (notClosing : first ≠ ']')
    (read : items? depth (first :: more) = some (items, rest)) :
    value? (depth + 1) ('[' :: first :: more) = some (.list items, rest) := by
  rw [value?, skipSpace_cons rfl]
  simp only [skipSpace_cons notSpace]
  split
  case h_1 same => exact absurd (List.cons.inj same).1 notClosing
  case h_2 => rw [read, Option.map_some]

theorem items?_last (read : value? depth text = some (item, ']' :: rest)) :
    items? (depth + 1) text = some ([item], rest) := by
  rw [items?, read]
  rfl

theorem items?_cons (read : value? depth text = some (item, ',' :: more))
    (others : items? depth more = some (items, rest)) :
    items? (depth + 1) text = some (item :: items, rest) := by
  rw [items?, read]
  change (items? depth more).bind _ = _
  rw [others]
  rfl

theorem value?_object (read : members? depth ('"' :: more) = some (members, rest)) :
    value? (depth + 1) ('{' :: '"' :: more) = some (.object members, rest) := by
  rw [value?, skipSpace_cons rfl]
  change (members? depth ('"' :: more)).map _ = _
  rw [read]
  rfl

theorem members?_last (read : value? depth text = some (value, '}' :: rest)) :
    members? (depth + 1) (quote name ++ ':' :: text) = some ([(name, value)], rest) := by
  rw [quote_append, members?, skipSpace_cons rfl]
  simp only [string?_quote, Option.bind_eq_bind, Option.bind_some]
  change (value? depth text).bind _ = _
  rw [read]
  rfl

theorem members?_cons (read : value? depth text = some (value, ',' :: more))
    (others : members? depth more = some (members, rest)) :
    members? (depth + 1) (quote name ++ ':' :: text) = some ((name, value) :: members, rest) := by
  rw [quote_append, members?, skipSpace_cons rfl]
  simp only [string?_quote, Option.bind_eq_bind, Option.bind_some]
  change (value? depth text).bind _ = _
  rw [read]
  change (members? depth more).bind _ = _
  rw [others]
  rfl

end Brackets

theorem exists_write_eq_cons (value : Value) : ∃ first more, write value = first :: more ∧
    isSpace first = false ∧ first ≠ ']' := by
  have ofWord {word : List Char} (nonempty : word ≠ [])
      (isWord : ∀ char ∈ word, isWordChar char = true) :
      ∃ first more, word = first :: more ∧ isSpace first = false ∧ first ≠ ']' := by
    obtain ⟨first, more, rfl⟩ := List.exists_cons_of_ne_nil nonempty
    obtain ⟨notSpace, -, -, -, notClosing⟩ := isWordChar_cases (isWord _ List.mem_cons_self)
    exact ⟨first, more, rfl, notSpace, notClosing⟩
  cases value with
  | absent => exact ⟨_, _, rfl, rfl, by decide⟩
  | null => exact ⟨_, _, rfl, rfl, by decide⟩
  | bool value => cases value <;> exact ⟨_, _, rfl, rfl, by decide⟩
  | number value => exact ofWord (number_isWord value).2.1 (number_isWord value).2.2
  | text | list | object => exact ⟨_, _, rfl, rfl, by decide⟩

/-- Behind a comma the others follow. -/
theorem intercalate_cons {texts : List (List Char)} (others : texts ≠ []) (text : List Char) :
    List.intercalate [','] (text :: texts) = text ++ ',' :: List.intercalate [','] texts := by
  obtain ⟨second, more, rfl⟩ := List.exists_cons_of_ne_nil others
  rw [List.intercalate_cons_cons, List.append_assoc, List.singleton_append]

theorem writeItems_ne_nil {items : List Value} (nonempty : items ≠ []) :
    writeItems items ≠ [] := by
  obtain ⟨item, rest, rfl⟩ := List.exists_cons_of_ne_nil nonempty
  exact List.cons_ne_nil _ _

theorem exists_intercalate_eq_cons {items : List Value} (nonempty : items ≠ []) :
    ∃ first more, List.intercalate [','] (writeItems items) = first :: more ∧
      isSpace first = false ∧ first ≠ ']' := by
  obtain ⟨item, rest, rfl⟩ := List.exists_cons_of_ne_nil nonempty
  obtain ⟨first, more, begins, other⟩ := exists_write_eq_cons item
  cases rest with
  | nil =>
    refine ⟨first, more, ?_, other⟩
    rw [writeItems, writeItems, List.intercalate_singleton, begins]
  | cons second rest =>
    refine ⟨first, more ++ ',' :: List.intercalate [','] (writeItems (second :: rest)), ?_, other⟩
    rw [writeItems, intercalate_cons (writeItems_ne_nil (List.cons_ne_nil _ _)), begins,
      List.cons_append]

/-- Members that are written begin with the name of one of them. -/
theorem exists_intercalate_eq_quote {members : Members} (some : writeMembers members ≠ []) :
    ∃ more, List.intercalate [','] (writeMembers members) = '"' :: more := by
  induction members with
  | nil => exact absurd rfl some
  | cons member rest ih =>
    obtain ⟨name, value⟩ := member
    rw [writeMembers] at some ⊢
    split
    case isTrue absent =>
      rw [if_pos absent] at some
      exact ih some
    case isFalse =>
      rw [quote_append]
      cases writeMembers rest with
      | nil => exact ⟨_, List.intercalate_singleton ..⟩
      | cons second others => exact ⟨_, List.intercalate_cons_cons ..⟩

theorem membersAfterJson_eq_nil {members : Members} (none : writeMembers members = []) :
    Value.membersAfterJson members = [] := by
  induction members with
  | nil => rfl
  | cons member rest ih =>
    obtain ⟨name, value⟩ := member
    rw [writeMembers] at none
    rw [Value.membersAfterJson]
    split at none
    case isTrue absent => rw [if_pos absent, ih none]
    case isFalse => cases none

theorem endsWord_cons {char : Char} (other : isWordChar char = false) (rest : List Char) :
    EndsWord (char :: rest) := by
  rintro _ ⟨⟩
  exact other

mutual

/-- The text of a value is read in front of whatever does not go on with a word. -/
theorem value?_write (value : Value) (rest : List Char) {depth : Nat}
    (deep : 2 * (write value).length ≤ depth) (ends : EndsWord rest) :
    value? depth (write value ++ rest) = some (value.afterJson, rest) := by
  obtain ⟨depth, rfl⟩ : ∃ lower, depth = lower + 1 := by
    obtain ⟨first, more, begins, -⟩ := exists_write_eq_cons value
    rw [begins, List.length_cons] at deep
    exact ⟨depth - 1, by omega⟩
  match value with
  | .absent | .null => exact value?_word (by decide) (List.all_eq_true.mp rfl) rfl ends depth
  | .bool true => exact value?_word (by decide) (List.all_eq_true.mp rfl) rfl ends depth
  | .bool false => exact value?_word (by decide) (List.all_eq_true.mp rfl) rfl ends depth
  | .number value =>
    obtain ⟨⟨read, found⟩, nonempty, isWord⟩ := number_isWord value
    rw [write, Value.afterJson, found]
    exact value?_word nonempty isWord found ends depth
  | .text value =>
    rw [write, quote_append, value?, skipSpace_cons rfl]
    simp only [string?_quote, Option.map_some]
    rfl
  | .list items =>
    by_cases empty : items = []
    · rw [empty]
      rfl
    · rw [write, List.length_append, List.length_cons] at deep
      have lower : 2 * (List.intercalate [','] (writeItems items)).length < depth := by
        omega
      have read := items?_writeItems items empty rest lower
      obtain ⟨first, more, begins, notSpace, notClosing⟩ := exists_intercalate_eq_cons empty
      rw [begins, List.cons_append] at read
      rw [write, begins, List.append_assoc, List.cons_append, List.cons_append, Value.afterJson]
      exact value?_list notSpace notClosing read
  | .object members =>
    by_cases empty : writeMembers members = []
    · rw [write, empty, Value.afterJson, membersAfterJson_eq_nil empty]
      rfl
    · rw [write, List.length_append, List.length_cons] at deep
      have lower : 2 * (List.intercalate [','] (writeMembers members)).length < depth := by
        omega
      have read := members?_writeMembers members empty rest lower
      obtain ⟨more, begins⟩ := exists_intercalate_eq_quote empty
      rw [begins, List.cons_append] at read
      rw [write, begins, List.append_assoc, List.cons_append, List.cons_append, Value.afterJson]
      exact value?_object read

theorem items?_writeItems (items : List Value) (nonempty : items ≠ []) (rest : List Char)
    {depth : Nat} (deep : 2 * (List.intercalate [','] (writeItems items)).length < depth) :
    items? depth (List.intercalate [','] (writeItems items) ++ ']' :: rest) =
      some (Value.itemsAfterJson items, rest) := by
  obtain ⟨depth, rfl⟩ : ∃ lower, depth = lower + 1 := ⟨depth - 1, by omega⟩
  match items with
  | [] => exact absurd rfl nonempty
  | [item] =>
    rw [writeItems, writeItems, List.intercalate_singleton] at deep ⊢
    exact items?_last (value?_write item _ (by omega) (endsWord_cons rfl _))
  | item :: second :: others =>
    have more := List.cons_ne_nil second others
    rw [writeItems, intercalate_cons (writeItems_ne_nil more)] at deep ⊢
    rw [List.length_append, List.length_cons] at deep
    rw [List.append_assoc, List.cons_append]
    exact items?_cons (value?_write item _ (by omega) (endsWord_cons rfl _))
      (items?_writeItems (second :: others) more rest (by omega))

theorem members?_writeMembers (members : Members) (some : writeMembers members ≠ [])
    (rest : List Char) {depth : Nat}
    (deep : 2 * (List.intercalate [','] (writeMembers members)).length < depth) :
    members? depth (List.intercalate [','] (writeMembers members) ++ '}' :: rest) =
      .some (Value.membersAfterJson members, rest) := by
  match members with
  | [] => exact absurd rfl some
  | (name, value) :: others =>
    by_cases absent : value.isAbsent = true
    · rw [writeMembers, if_pos absent] at some deep ⊢
      rw [Value.membersAfterJson, if_pos absent]
      exact members?_writeMembers others some rest deep
    · obtain ⟨depth, rfl⟩ : ∃ lower, depth = lower + 1 := ⟨depth - 1, by omega⟩
      rw [writeMembers, if_neg absent] at deep ⊢
      rw [Value.membersAfterJson, if_neg absent]
      by_cases last : writeMembers others = []
      · rw [last, List.intercalate_singleton, List.length_append, List.length_cons] at deep
        rw [last, List.intercalate_singleton, List.append_assoc, List.cons_append,
          membersAfterJson_eq_nil last]
        exact members?_last (value?_write value _ (by omega) (endsWord_cons rfl _))
      · rw [intercalate_cons last, List.length_append, List.length_append, List.length_cons,
          List.length_cons] at deep
        rw [intercalate_cons last, List.append_assoc, List.append_assoc, List.cons_append,
          List.cons_append]
        exact members?_cons (value?_write value _ (by omega) (endsWord_cons rfl _))
          (members?_writeMembers others last rest (by omega))

end

/-- **The text of a value is read back.** What is read is the value without what JSON does not
have. -/
theorem read?_json (value : Value) : read? value.json = some value.afterJson := by
  have read := value?_write value [] (Nat.le_add_right _ 2) nofun
  rw [List.append_nil] at read
  rw [read?, Value.json, String.toList_ofList]
  simp only [read]
  rfl

end Json

end InterfaceAddress
