import ContentGateway.Decimal.Digits
import ContentGateway.Text.Basic
import ContentGateway.Value

/-!
# Reading JSON

A JSON text holds one value with blanks around it, where only space, tab, newline and return are
blank. Beside the numbers of the standard, `NaN`, `Infinity` and `-Infinity` are read. A number
without fraction and exponent is whole, any other is binary64. Of a repeated name the first place
and the last value count.

Each step takes characters off the front and gives back the rest, so a flaw is placed by how many
characters were left where it lies. Steps that call themselves carry a count of the steps still
allowed; `read` starts with more than any text can use up.

A whole number of more digits than are exchanged with text is no flaw of the text. It ends reading
at once, whatever else is wrong behind it.
-/

namespace ContentGateway.Json

/-- What a text that is not JSON lacks or has too much. -/
inductive Flaw where
  | value
  | extraData
  | name
  | colon
  | comma
  | openText
  | controlCharacter
  | escape
  | unicodeEscape
  | byteOrderMark
  deriving DecidableEq

def Flaw.message : Flaw → String
  | .value => "Expecting value"
  | .extraData => "Extra data"
  | .name => "Expecting property name enclosed in double quotes"
  | .colon => "Expecting ':' delimiter"
  | .comma => "Expecting ',' delimiter"
  | .openText => "Unterminated string starting at"
  | .controlCharacter => "Invalid control character at"
  | .escape => "Invalid \\escape"
  | .unicodeEscape => "Invalid \\uXXXX escape"
  | .byteOrderMark => "Unexpected UTF-8 BOM (decode using utf-8-sig)"

/-- A flaw and the index of the character where it lies. -/
structure FlawAt where
  flaw : Flaw
  index : Nat
  line : Nat
  column : Nat
  deriving DecidableEq

/-- The place of an index in a text: lines and columns count from one. -/
def FlawAt.locate (flaw : Flaw) (cs : List Char) (index : Nat) : FlawAt :=
  let before := cs.take index
  { flaw, index
    line := before.count '\n' + 1
    column := (before.reverse.takeWhile (· ≠ '\n')).length + 1 }

def FlawAt.message (f : FlawAt) : String :=
  f.flaw.message ++ ": line " ++ toString f.line ++ " column " ++ toString f.column ++
    " (char " ++ toString f.index ++ ")"

/-- Why a text was not read. -/
inductive ReadFault where
  | flawed (f : FlawAt)
  | digitLimit (digits : Nat)

/-- Where a step stopped: at a flaw with so many characters left, or at a number too long. -/
inductive Stop where
  | flaw (f : Flaw) (left : Nat)
  | digitLimit (digits : Nat)

/-- A step gives what it read, or stops. -/
abbrev Step := Except Stop

/-- What was taken off the front of a text, and the characters behind it. -/
abbrev Front (α : Type) := α × List Char

/-- A character between the parts of a value. -/
def isBlank (c : Char) : Bool := c = ' ' || c = '\t' || c = '\n' || c = '\r'

/-- The text from its first character that is not blank. -/
def skipBlanks (cs : List Char) : List Char := cs.dropWhile isBlank

/-! ## Texts -/

/-- The number of four hexadecimal digits. -/
def hexQuad? (a b c d : Char) : Option Nat := do
  let a ← Text.hexValue? a
  let b ← Text.hexValue? b
  let c ← Text.hexValue? c
  let d ← Text.hexValue? d
  return ((a * 16 + b) * 16 + c) * 16 + d

/-- The four digits of an escape by number. The text goes on behind them, if only with its closing
quote; `cs` begins behind the letter. -/
def readQuad (cs : List Char) : Step (Front Nat) :=
  match cs with
  | a :: b :: c :: d :: e :: rest =>
    match hexQuad? a b c d with
    | some n => .ok (n, e :: rest)
    | none => .error (.flaw .unicodeEscape (cs.length + 1))
  | _ => .error (.flaw .unicodeEscape (cs.length + 1))

/-- The low half of a surrogate pair at the front. An escape is taken for the other half only if the
text goes on behind it, and must then be well formed. -/
def readLowHalf (cs : List Char) : Step (Option (Front Nat)) :=
  match cs with
  | '\\' :: 'u' :: rest =>
    if rest.length ≤ 4 then .ok none
    else do
      let (low, rest) ← readQuad rest
      return if 0xdc00 ≤ low && low < 0xe000 then some (low, rest) else none
  | _ => .ok none

/-- An escape by number, whose digits come next; two of them make up a character beyond the basic
plane. A half without the other one is a point of its own. -/
def readNumbered (cs : List Char) : Step (Front Text.Point) := do
  let (n, rest) ← readQuad cs
  if 0xd800 ≤ n && n < 0xdc00 then
    match ← readLowHalf rest with
    | some (low, rest) =>
      return (.char (Char.ofNat (0x10000 + (n - 0xd800) * 0x400 + (low - 0xdc00))), rest)
    | none => return (.ofNat n, rest)
  else return (.ofNat n, rest)

/-- What follows a backslash. An escape that the text ends in leaves the text open; `quote` is what
was left at its opening quote. -/
def readEscape (quote : Nat) (cs : List Char) : Step (Front Text.Point) :=
  match cs with
  | [] => .error (.flaw .openText quote)
  | c :: rest =>
    if c = '"' || c = '\\' || c = '/' then .ok (.char c, rest)
    else if c = 'b' then .ok (.char '\x08', rest)
    else if c = 'f' then .ok (.char '\x0c', rest)
    else if c = 'n' then .ok (.char '\n', rest)
    else if c = 'r' then .ok (.char '\r', rest)
    else if c = 't' then .ok (.char '\t', rest)
    else if c = 'u' then readNumbered rest
    else .error (.flaw .escape (cs.length + 1))

/-- The points up to the closing quote. -/
def readText (quote : Nat) : (steps : Nat) → List Char → Step (Front (List Text.Point))
  | 0, _ => .error (.flaw .openText quote)
  | _ + 1, [] => .error (.flaw .openText quote)
  | steps + 1, c :: rest =>
    if c = '"' then .ok ([], rest)
    else if c = '\\' then do
      let (p, rest) ← readEscape quote rest
      let (more, rest) ← readText quote steps rest
      return (p :: more, rest)
    else if c.toNat < 0x20 then .error (.flaw .controlCharacter (rest.length + 1))
    else do
      let (more, rest) ← readText quote steps rest
      return (.char c :: more, rest)

/-- The points of the text whose opening quote was just taken. -/
def readQuoted (cs : List Char) : Step (Front (List Text.Point)) :=
  readText (cs.length + 1) cs.length cs

/-! ## Numbers -/

def digitRun (cs : List Char) : List Char × List Char :=
  (cs.takeWhile Text.isAsciiDigit, cs.dropWhile Text.isAsciiDigit)

/-- The digits of a whole number at the front: a zero alone or digits that begin with another. -/
def wholeRun (cs : List Char) : List Char × List Char :=
  match cs with
  | '0' :: rest => (['0'], rest)
  | cs => digitRun cs

/-- The digits of a fraction at the front, none if no digit follows a point. -/
def fractionRun (cs : List Char) : List Char × List Char :=
  match cs with
  | '.' :: rest => if (digitRun rest).1.isEmpty then ([], cs) else digitRun rest
  | _ => ([], cs)

/-- The exponent at the front, if digits follow its letter and sign. -/
def exponentRun (cs : List Char) : Option Int × List Char :=
  match cs with
  | c :: rest =>
    if c = 'e' || c = 'E' then
      let (negative, rest) := match rest with
        | '-' :: rest => (true, rest)
        | '+' :: rest => (false, rest)
        | rest => (false, rest)
      let (digits, rest) := digitRun rest
      if digits.isEmpty then (none, cs)
      else
        let n : Int := Decimal.asciiValue digits
        (some (if negative then -n else n), rest)
    else (none, cs)
  | [] => (none, cs)

/-- The longest number at the front. -/
def readNumber (cs : List Char) : Step (Front Value) :=
  let (negative, body) := match cs with
    | '-' :: rest => (true, rest)
    | cs => (false, cs)
  let (whole, rest) := wholeRun body
  if whole.isEmpty then .error (.flaw .value cs.length)
  else
    let (fraction, rest) := fractionRun rest
    let (exponent, rest) := exponentRun rest
    if fraction.isEmpty && exponent.isNone then
      if Decimal.digitLimit < whole.length then .error (.digitLimit whole.length)
      else
        let n : Int := Decimal.asciiValue whole
        .ok (.int (if negative then -n else n), rest)
    else
      .ok (.float (Binary64.ofDecimal negative (Decimal.asciiValue (whole ++ fraction))
        (exponent.getD 0 - fraction.length)), rest)

/-! ## Values -/

/-- The values that are written as a word. -/
def words : List (String × Value) := [
  ("null", .null),
  ("true", .bool true),
  ("false", .bool false),
  ("NaN", .float .nan),
  ("Infinity", .float (.infinite false)),
  ("-Infinity", .float (.infinite true))]

/-- The value whose word is at the front. -/
def readWord? (cs : List Char) : Option (Value × List Char) :=
  words.findSome? fun (word, v) =>
    if word.toList.isPrefixOf cs then some (v, cs.drop word.length) else none

/-- Goes on behind an item: to the next one behind a comma, or out behind the closing bracket. -/
def afterItem {α : Type} (closing : Char) (rest : List Char) (item : α)
    (next : List Char → Step (Front (List α))) : Step (Front (List α)) :=
  match skipBlanks rest with
  | [] => .error (.flaw .comma 0)
  | c :: rest =>
    if c = closing then .ok ([item], rest)
    else if c = ',' then do
      let (more, rest) ← next (skipBlanks rest)
      return (item :: more, rest)
    else .error (.flaw .comma (rest.length + 1))

/-- The name and the colon at the front of a field. A name is a string, in which a half is replaced
by the character that is shown for it. -/
def readName (cs : List Char) : Step (Front String) :=
  match cs with
  | '"' :: rest => do
    let (ps, rest) ← readQuoted rest
    match skipBlanks rest with
    | ':' :: rest => return (Text.mended ps, skipBlanks rest)
    | rest => .error (.flaw .colon rest.length)
  | cs => .error (.flaw .name cs.length)

mutual

/-- The value at the front. -/
def readValue : (steps : Nat) → List Char → Step (Front Value)
  | 0, cs => .error (.flaw .value cs.length)
  | steps + 1, cs =>
    match cs with
    | '"' :: rest => do
      let (ps, rest) ← readQuoted rest
      return (.ofPoints ps, rest)
    | '[' :: rest =>
      match skipBlanks rest with
      | ']' :: rest => .ok (.list [], rest)
      | rest => do
        let (items, rest) ← readItems steps rest
        return (.list items, rest)
    | '\x7b' :: rest =>
      match skipBlanks rest with
      | '\x7d' :: rest => .ok (.dict [], rest)
      | rest => do
        let (fields, rest) ← readFields steps rest
        return (.dict (Fields.ofList fields), rest)
    | cs =>
      match readWord? cs with
      | some found => .ok found
      | none => readNumber cs

/-- The items of a list, at least one, and the closing bracket. -/
def readItems : (steps : Nat) → List Char → Step (Front (List Value))
  | 0, cs => .error (.flaw .value cs.length)
  | steps + 1, cs => do
    let (item, rest) ← readValue steps cs
    afterItem ']' rest item (readItems steps)

/-- The fields of an object, at least one, and the closing brace. -/
def readFields : (steps : Nat) → List Char → Step (Front (List (String × Value)))
  | 0, cs => .error (.flaw .value cs.length)
  | steps + 1, cs => do
    let (name, rest) ← readName cs
    let (v, rest) ← readValue steps rest
    afterItem '\x7d' rest (name, v) (readFields steps)

end

/-- The one value of a whole text. -/
def readWhole (cs : List Char) : Step Value := do
  match cs with
  | '\ufeff' :: _ => .error (.flaw .byteOrderMark cs.length)
  | cs =>
    let (v, rest) ← readValue (2 * cs.length + 2) (skipBlanks cs)
    match skipBlanks rest with
    | [] => return v
    | rest => .error (.flaw .extraData rest.length)

def read (s : String) : Except ReadFault Value :=
  let cs := s.toList
  match readWhole cs with
  | .ok v => .ok v
  | .error (.flaw f left) => .error (.flawed (.locate f cs (cs.length - left)))
  | .error (.digitLimit digits) => .error (.digitLimit digits)

end ContentGateway.Json
