/-!
# Characters and pieces of texts

The characters that separate words are the Unicode `White_Space` set together with the four
information separators `U+001C` … `U+001F`. A zero-width space (`U+200B`) joins, it does not
separate, and is not blank. `words` cuts a text at blank runs and keeps no empty word; `strip`
removes the blanks around it.

A text is also cut at a separator: at the first one into two parts, or at every one into all parts.
The parts with the separators between them are the text again.

Larger sets of characters are written as inclusive ranges in ascending order that do not touch, and
membership is found by halving.
-/

namespace ContentGateway.Text

/-! ## Blanks -/

/-- A character that separates words. -/
def isBlank (c : Char) : Bool :=
  let n := c.toNat
  (0x09 ≤ n && n ≤ 0x0d) || (0x1c ≤ n && n ≤ 0x20) || n == 0x85 || n == 0xa0 || n == 0x1680 ||
    (0x2000 ≤ n && n ≤ 0x200a) || n == 0x2028 || n == 0x2029 || n == 0x202f || n == 0x205f ||
    n == 0x3000

/-- The text without the characters of a class at its two ends. -/
def trimBy (p : Char → Bool) (cs : List Char) : List Char :=
  ((cs.dropWhile p).reverse.dropWhile p).reverse

def strip (cs : List Char) : List Char := trimBy isBlank cs

/-- Collects the words of a text; `current` is the word read so far, last character first. -/
def wordsFrom (current : List Char) : List Char → List (List Char)
  | [] => if current.isEmpty then [] else [current.reverse]
  | c :: cs =>
    if isBlank c then
      if current.isEmpty then wordsFrom [] cs else current.reverse :: wordsFrom [] cs
    else wordsFrom (c :: current) cs

/-- The maximal runs of characters that are not blank, in order. -/
def words (cs : List Char) : List (List Char) := wordsFrom [] cs

/-! ## Separators -/

/-- The text before the first separator and the text behind it, if there is one. -/
def splitFirst? (separator : Char) : List Char → Option (List Char × List Char)
  | [] => none
  | c :: cs =>
    if c = separator then some ([], cs)
    else (splitFirst? separator cs).map fun (before, behind) => (c :: before, behind)

/-- The parts between the separators, one more than there are separators. -/
def splitAll (separator : Char) : List Char → List (List Char)
  | [] => [[]]
  | c :: cs =>
    if c = separator then [] :: splitAll separator cs
    else
      match splitAll separator cs with
      | [] => [[c]]
      | part :: parts => (c :: part) :: parts

/-! ## Hexadecimal digits -/

def hexDigit (n : Nat) : Char :=
  if n < 10 then Char.ofNat ('0'.toNat + n) else Char.ofNat ('a'.toNat + (n - 10))

def hexDigitUpper (n : Nat) : Char :=
  if n < 10 then Char.ofNat ('0'.toNat + n) else Char.ofNat ('A'.toNat + (n - 10))

/-- The last `width` hexadecimal digits of a number, in lower case. -/
def hex : (width n : Nat) → List Char
  | 0, _ => []
  | width + 1, n => hex width (n / 16) ++ [hexDigit (n % 16)]

/-- The number that a hexadecimal digit of either case stands for. -/
def hexValue? (c : Char) : Option Nat :=
  let n := c.toNat
  if '0'.toNat ≤ n && n ≤ '9'.toNat then some (n - '0'.toNat)
  else if 'a'.toNat ≤ n && n ≤ 'f'.toNat then some (n - 'a'.toNat + 10)
  else if 'A'.toNat ≤ n && n ≤ 'F'.toNat then some (n - 'A'.toNat + 10)
  else none

/-! ## Ranges -/

/-- Whether the ranges with indices in `[lo, lo + width)` hold `n`, by halving the width. -/
def inRanges (ranges : Array (Nat × Nat)) (n : Nat) : (fuel lo width : Nat) → Bool
  | 0, _, _ => false
  | fuel + 1, lo, width =>
    let middle := lo + width / 2
    match ranges[middle]? with
    | none => false
    | some (first, last) =>
      if n < first then width / 2 ≠ 0 && inRanges ranges n fuel lo (width / 2)
      else if n ≤ last then true
      else
        let right := width - width / 2 - 1
        right ≠ 0 && inRanges ranges n fuel (middle + 1) right

def isAmong (ranges : Array (Nat × Nat)) (c : Char) : Bool :=
  inRanges ranges c.toNat (ranges.size + 1) 0 ranges.size

end ContentGateway.Text
