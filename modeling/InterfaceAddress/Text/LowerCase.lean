import InterfaceAddress.Text.LetterCase

/-! # Lower case

Every letter is replaced by its lower-case letter. Two letters need more: a
capital I with a dot becomes two characters, and a capital sigma at the end of a
word becomes the final form of the letter.
-/

namespace InterfaceAddress.Text

namespace LetterCase

def inRanges (ranges : List (Nat × Nat)) (char : Char) : Bool :=
  ranges.any fun (first, last) => first ≤ char.toNat && char.toNat ≤ last

/-- The lower-case letter of a character, itself if it has none. -/
def lowerChar (char : Char) : Char :=
  let code := char.toNat
  let found := lowerRanges.find? fun (first, last, step, _) =>
    first ≤ code && code ≤ last && (code - first) % step = 0
  match found with
  | some (first, _, _, lower) => Char.ofNat (lower + (code - first))
  | none => char

/-- Whether the nearest character that is not passed over has case. -/
def meetsCased (neighbours : List Char) : Bool :=
  match neighbours.dropWhile (inRanges passedRanges) with
  | [] => false
  | char :: _ => inRanges casedRanges char

/-- A character between the text before it, nearest first, and the text after it. -/
def lowerAt (before : List Char) (char : Char) (after : List Char) : List Char :=
  if char = 'Σ' then [if meetsCased before && !meetsCased after then 'ς' else 'σ']
  else if char = 'İ' then ['i', '\u0307']
  else [lowerChar char]

end LetterCase

/-- Lower case of a text that follows `before`, whose nearest character comes first. -/
def lowerAfter (before : List Char) : List Char → List Char
  | [] => []
  | char :: after => LetterCase.lowerAt before char after ++ lowerAfter (char :: before) after

def lower (text : List Char) : List Char := lowerAfter [] text

end InterfaceAddress.Text
