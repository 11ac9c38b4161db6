import ContentGateway.Decimal.Binary64
import ContentGateway.Decimal.Digits
import ContentGateway.Text.Basic

/-!
# Numbers as people write them

Numbers in settings and on the command line may carry blanks around them and one sign, may use the
digits of any script, and may group digits by single underscores between two digits. `readInt?`
reads whole numbers, `readBinary64?` reads fractions, exponents, infinities and NaN as well.
Nothing else is read: no hexadecimal form, no second sign, no blank inside.
-/

namespace ContentGateway.Decimal

/-- A character in its ASCII reading: a digit of any script as that digit, a blank outside ASCII as
a space. A character without one becomes a question mark, which no number holds. -/
def plainChar (c : Char) : Char :=
  if c.toNat < 0x80 then c
  else if Text.isBlank c then ' '
  else
    match Text.decimalDigit? c with
    | some d => Char.ofNat ('0'.toNat + d)
    | none => '?'

/-- The ASCII blanks that may stand around a number. -/
def isMargin (c : Char) : Bool := c = ' ' || (0x09 ≤ c.toNat && c.toNat ≤ 0x0d)

/-- A text in its ASCII reading, without the blanks around it. -/
def plain (s : String) : List Char := Text.trimBy isMargin (s.toList.map plainChar)

/-- A sign, if one is there, and what follows it. -/
def signed : List Char → Bool × List Char
  | '-' :: rest => (true, rest)
  | '+' :: rest => (false, rest)
  | rest => (false, rest)

/-- The digits of a run in which single underscores may separate digits; `afterDigit` says whether
the last character was a digit. -/
def groupedFrom (afterDigit : Bool) : List Char → Option (List Char)
  | [] => if afterDigit then some [] else none
  | '_' :: rest => if afterDigit then groupedFrom false rest else none
  | c :: rest => if Text.isAsciiDigit c then (c :: ·) <$> groupedFrom true rest else none

/-- The digits of a non-empty run, without the underscores between them. -/
def grouped? (cs : List Char) : Option (List Char) := groupedFrom false cs

/-- Reads a whole number of at most `digitLimit` digits. -/
def readInt? (s : String) : Option Int :=
  let (negative, rest) := signed (plain s)
  match grouped? rest with
  | none => none
  | some digits =>
    if digits.length ≤ digitLimit then
      let n : Int := asciiValue digits
      some (if negative then -n else n)
    else none

/-! ## Fractions -/

/-- The text without underscores, if each of them stands between two digits. -/
def ungroupedFrom (afterDigit : Bool) : List Char → Option (List Char)
  | [] => some []
  | '_' :: rest =>
    match rest with
    | c :: _ => if afterDigit && Text.isAsciiDigit c then ungroupedFrom false rest else none
    | [] => none
  | c :: rest => (c :: ·) <$> ungroupedFrom (Text.isAsciiDigit c) rest

/-- A power of ten behind a mantissa: the letter, a sign, at least one digit, and no more. -/
def exponent? : List Char → Option Int
  | [] => some 0
  | c :: rest =>
    if c = 'e' || c = 'E' then
      let (negative, digits) := signed rest
      if digits.isEmpty || !digits.all Text.isAsciiDigit then none
      else
        let n : Int := asciiValue digits
        some (if negative then -n else n)
    else none

/-- A mantissa, with digits on at least one side of its point, and an exponent. -/
def mantissa? (negative : Bool) (cs : List Char) : Option Binary64 :=
  let whole := cs.takeWhile Text.isAsciiDigit
  let rest := cs.dropWhile Text.isAsciiDigit
  let (fraction, rest) := match rest with
    | '.' :: rest => (rest.takeWhile Text.isAsciiDigit, rest.dropWhile Text.isAsciiDigit)
    | rest => ([], rest)
  if whole.isEmpty && fraction.isEmpty then none
  else do
    let e ← exponent? rest
    return Binary64.ofDecimal negative (asciiValue (whole ++ fraction)) (e - fraction.length)

/-- Reads a binary64 number: a decimal, or a name of infinity or NaN in any case. -/
def readBinary64? (s : String) : Option Binary64 :=
  match ungroupedFrom false (plain s) with
  | none => none
  | some cs =>
    let (negative, rest) := signed cs
    let name := String.ofList (rest.map Char.toLower)
    if name = "inf" || name = "infinity" then some (.infinite negative)
    else if name = "nan" then some .nan
    else mantissa? negative rest

end ContentGateway.Decimal
