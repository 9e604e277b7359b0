import InterfaceAddress.Value.Basic

/-! # JSON text of a value

Values are written without spaces. Strings escape the quotation mark, the
backslash and the control characters below U+0020 and nothing else. Numbers that
are not finite are written as null, absent members are left out and absent list
items are written as null.
-/

namespace InterfaceAddress.Json

/-- The letter that follows the backslash for a character with a short escape. -/
def shortEscape? (char : Char) : Option Char :=
  match char with
  | '"' => some '"'
  | '\\' => some '\\'
  | '\x08' => some 'b'
  | '\t' => some 't'
  | '\n' => some 'n'
  | '\x0c' => some 'f'
  | '\r' => some 'r'
  | _ => none

/-- A character inside a string. -/
def escape (char : Char) : List Char :=
  match shortEscape? char with
  | some letter => ['\\', letter]
  | none =>
    if char.toNat < 0x20 then
      ['\\', 'u', '0', '0', (char.toNat / 16).digitChar, (char.toNat % 16).digitChar]
    else [char]

/-- A string between quotation marks. -/
def quote (text : String) : List Char := '"' :: text.toList.flatMap escape ++ ['"']

/-- A number; only finite ones have a text of their own. -/
def number (value : Binary64) : List Char :=
  match value with
  | .finite _ _ => Numeral.ofBinary64 value
  | _ => "null".toList

mutual

/-- The text of a value. -/
def write : Value → List Char
  | .absent => "null".toList
  | .null => "null".toList
  | .bool value => (if value then "true" else "false").toList
  | .number value => number value
  | .text value => quote value
  | .list items => '[' :: List.intercalate [','] (writeItems items) ++ [']']
  | .object members => '{' :: List.intercalate [','] (writeMembers members) ++ ['}']

/-- The texts of the items of a list. -/
def writeItems : List Value → List (List Char)
  | [] => []
  | item :: rest => write item :: writeItems rest

/-- The texts of the members of an object that are present. -/
def writeMembers : List (String × Value) → List (List Char)
  | [] => []
  | (name, value) :: rest =>
    if value.isAbsent then writeMembers rest
    else (quote name ++ ':' :: write value) :: writeMembers rest

end

end InterfaceAddress.Json

/-- The JSON text of a value. -/
def InterfaceAddress.Value.json (value : InterfaceAddress.Value) : String :=
  String.ofList (InterfaceAddress.Json.write value)
