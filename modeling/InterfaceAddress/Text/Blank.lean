/-! # Blank characters and trimming

Surrounding blanks are dropped from addresses and environment variables. Blank
are the white space characters of the Unicode standard, the line ends and the
byte order mark.
-/

namespace InterfaceAddress.Text

/-- White space, line ends and the byte order mark. -/
def isBlank (char : Char) : Bool :=
  let code := char.toNat
  (0x09 ≤ code && code ≤ 0x0d) || code = 0x20 || code = 0xa0 || code = 0x1680 ||
    (0x2000 ≤ code && code ≤ 0x200a) || code = 0x2028 || code = 0x2029 || code = 0x202f ||
    code = 0x205f || code = 0x3000 || code = 0xfeff

/-- The text between the first and the last character that is not blank. -/
def trim (text : List Char) : List Char :=
  ((text.dropWhile isBlank).reverse.dropWhile isBlank).reverse

end InterfaceAddress.Text
