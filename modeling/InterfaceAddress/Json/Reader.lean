import InterfaceAddress.Value.Basic

/-! # Reading JSON text

Objects keep the order of their members. Each nested call consumes a character
or descends from a bracket to its first item, so twice the length of the text
bounds the depth.
-/

namespace InterfaceAddress.Json

/-- The blanks that may stand between tokens. -/
def isSpace (char : Char) : Bool := char = ' ' || char = '\t' || char = '\n' || char = '\r'

def skipSpace (text : List Char) : List Char := text.dropWhile isSpace

/-- The character behind the letter of a short escape. -/
def unescape? (letter : Char) : Option Char :=
  match letter with
  | '"' => some '"'
  | '\\' => some '\\'
  | '/' => some '/'
  | 'b' => some '\x08'
  | 't' => some '\t'
  | 'n' => some '\n'
  | 'f' => some '\x0c'
  | 'r' => some '\r'
  | _ => none

/-- The code units of a string after its opening mark, and the text after its closing mark. An
escaped character beyond U+FFFF is two units. -/
def codeUnits? : List Char → Option (List Nat × List Char)
  | [] => none
  | '"' :: rest => some ([], rest)
  | '\\' :: 'u' :: a :: b :: c :: d :: rest => do
    let unit ← Text.ofHexDigits? [a, b, c, d]
    let (units, rest) ← codeUnits? rest
    return (unit :: units, rest)
  | '\\' :: letter :: rest => do
    let char ← unescape? letter
    let (units, rest) ← codeUnits? rest
    return (char.toNat :: units, rest)
  | char :: rest =>
    if char.toNat < 0x20 ∨ char = '\\' then none
    else do
      let (units, rest) ← codeUnits? rest
      return (char.toNat :: units, rest)

/-- Join surrogate pairs. A surrogate on its own becomes the replacement character. -/
def joinUnits : List Nat → List Char
  | [] => []
  | [unit] => [if unit.isValidChar then Char.ofNat unit else '\uFFFD']
  | first :: second :: rest =>
    if 0xd800 ≤ first ∧ first < 0xdc00 ∧ 0xdc00 ≤ second ∧ second < 0xe000 then
      Char.ofNat (0x10000 + (first - 0xd800) * 0x400 + (second - 0xdc00)) :: joinUnits rest
    else
      (if first.isValidChar then Char.ofNat first else '\uFFFD') :: joinUnits (second :: rest)

/-- A string after its opening mark. -/
def string? (text : List Char) : Option (String × List Char) :=
  (codeUnits? text).map fun (units, rest) => (String.ofList (joinUnits units), rest)

/-- Whether a digit run has no needless zero in front. -/
def isWholePart : List Char → Bool
  | [] => false
  | ['0'] => true
  | first :: _ => first ≠ '0'

/-- A number: no sign but minus, no needless zero in front, digits on both sides of a point. -/
def number? (text : List Char) : Option Binary64 :=
  let (negative, unsigned) := match text with
    | '-' :: rest => (true, rest)
    | rest => (false, rest)
  let (whole, rest) := unsigned.span Char.isDigit
  let fractionStarts := match rest with
    | '.' :: next :: _ => next.isDigit
    | ['.'] => false
    | _ => true
  if isWholePart whole && fractionStarts then
    (Numeral.decimal? unsigned).map (·.toBinary64 negative)
  else none

/-- A word without brackets or marks: a constant or a number. -/
def scalar? (word : List Char) : Option Value :=
  if word = "true".toList then some (.bool true)
  else if word = "false".toList then some (.bool false)
  else if word = "null".toList then some .null
  else (number? word).map .number

/-- The characters of constants and numbers. -/
def isWordChar (char : Char) : Bool :=
  char.isAlphanum || char = '+' || char = '-' || char = '.'

mutual

/-- A value in front of a text. -/
def value? : Nat → List Char → Option (Value × List Char)
  | 0, _ => none
  | depth + 1, text =>
    match skipSpace text with
    | '"' :: rest => (string? rest).map fun (value, rest) => (.text value, rest)
    | '[' :: rest =>
      match skipSpace rest with
      | ']' :: rest => some (.list [], rest)
      | rest => (items? depth rest).map fun (items, rest) => (.list items, rest)
    | '{' :: rest =>
      match skipSpace rest with
      | '}' :: rest => some (.object [], rest)
      | rest => (members? depth rest).map fun (members, rest) => (.object members, rest)
    | text =>
      let (word, rest) := text.span isWordChar
      (scalar? word).map fun value => (value, rest)

/-- One or more list items and the closing bracket. -/
def items? : Nat → List Char → Option (List Value × List Char)
  | 0, _ => none
  | depth + 1, text => do
    let (item, rest) ← value? depth text
    match skipSpace rest with
    | ']' :: rest => return ([item], rest)
    | ',' :: rest =>
      let (items, rest) ← items? depth rest
      return (item :: items, rest)
    | _ => none

/-- One or more object members and the closing brace. -/
def members? : Nat → List Char → Option (List (String × Value) × List Char)
  | 0, _ => none
  | depth + 1, text =>
    match skipSpace text with
    | '"' :: rest => do
      let (name, rest) ← string? rest
      match skipSpace rest with
      | ':' :: rest =>
        let (value, rest) ← value? depth rest
        match skipSpace rest with
        | '}' :: rest => return ([(name, value)], rest)
        | ',' :: rest =>
          let (members, rest) ← members? depth rest
          return ((name, value) :: members, rest)
        | _ => none
      | _ => none
    | _ => none

end

/-- The value that a whole text denotes. -/
def read? (text : String) : Option Value :=
  let chars := text.toList
  match value? (2 * chars.length + 2) chars with
  | some (value, rest) => if skipSpace rest = [] then some value else none
  | none => none

end InterfaceAddress.Json
