import ContentGateway.Text.Basic
import ContentGateway.Value.Render

/-!
# Writing JSON

JSON is written in ASCII: a character outside `U+0020` … `U+007E` is escaped by a letter or by its
number, one beyond the basic plane by a surrogate pair, and an unpaired half by its number. A value
is laid out on one line, or over lines with two blanks for each level; an empty list or object stays
on its line either way.

Raw bytes and faults have no JSON form. A strict writer refuses them, a lenient one writes how they
are shown as a text.
-/

namespace ContentGateway.Json

/-- How a value is laid out. -/
inductive Layout where
  | oneLine
  | indented
  deriving DecidableEq

/-- What becomes of raw bytes and faults. -/
inductive Strictness where
  | strict
  | lenient
  deriving DecidableEq

/-! ## Texts -/

/-- The escape of a number below `U+10000`. -/
def unicodeEscape (n : Nat) : List Char := '\\' :: 'u' :: Text.hex 4 n

/-- How a character stands between quotes. -/
def textChar (c : Char) : List Char :=
  let n := c.toNat
  if c = '"' || c = '\\' then ['\\', c]
  else if 0x20 ≤ n && n < 0x7f then [c]
  else if c = '\n' then ['\\', 'n']
  else if c = '\r' then ['\\', 'r']
  else if c = '\t' then ['\\', 't']
  else if n = 0x08 then ['\\', 'b']
  else if n = 0x0c then ['\\', 'f']
  else if n < 0x10000 then unicodeEscape n
  else
    unicodeEscape (0xd800 + (n - 0x10000) / 0x400) ++ unicodeEscape (0xdc00 + (n - 0x10000) % 0x400)

/-- How a point stands between quotes. -/
def pointForm : Text.Point → List Char
  | .char c => textChar c
  | .half n => unicodeEscape (0xd800 + n.val)

def textForm (s : String) : List Char := '"' :: s.toList.flatMap textChar ++ ['"']

def brokenForm (t : Text.Broken) : List Char := '"' :: t.points.flatMap pointForm ++ ['"']

/-! ## Numbers -/

/-- A binary64 number: its shortest text, or a word where it is not finite. -/
def numberForm (x : Binary64) : List Char :=
  match x with
  | .nan => "NaN".toList
  | .infinite negative => (if negative then "-Infinity" else "Infinity").toList
  | x => x.text.toList

/-! ## Layout -/

/-- The start of a line at a depth. -/
def Layout.newLine (layout : Layout) (depth : Nat) : List Char :=
  match layout with
  | .oneLine => []
  | .indented => '\n' :: List.replicate (2 * depth) ' '

/-- What stands between two items at a depth. -/
def Layout.between (layout : Layout) (depth : Nat) : List Char :=
  match layout with
  | .oneLine => [',', ' ']
  | .indented => ',' :: layout.newLine depth

/-- Items between brackets, one level below `depth`. -/
def Layout.enclose (layout : Layout) (depth : Nat) (opening closing : Char)
    (items : List (List Char)) : List Char :=
  if items.isEmpty then [opening, closing]
  else
    opening :: layout.newLine (depth + 1) ++
      (layout.between (depth + 1)).intercalate items ++ layout.newLine depth ++ [closing]

/-! ## Values -/

/-- A value without a JSON form: refused, or written as it is shown. -/
def foreignForm (strictness : Strictness) (v : Value) : Except Fault (List Char) :=
  match strictness with
  | .strict => .error (.misuse .wrongType)
  | .lenient => do return textForm (← v.display)

mutual

/-- The JSON form of a value at a depth. -/
def valueForm (layout : Layout) (strictness : Strictness) (depth : Nat) :
    Value → Except Fault (List Char)
  | .null => .ok "null".toList
  | .bool b => .ok (if b then "true" else "false").toList
  | .int i => do return (← Value.wholeText i).toList
  | .float x => .ok (numberForm x)
  | .text s => .ok (textForm s)
  | .unpaired t => .ok (brokenForm t)
  | .list items => do
    return layout.enclose depth '[' ']' (← itemForms layout strictness (depth + 1) items)
  | .dict fields => do
    return layout.enclose depth '\x7b' '\x7d' (← fieldForms layout strictness (depth + 1) fields)
  | .bytes data => foreignForm strictness (.bytes data)
  | .fault f => foreignForm strictness (.fault f)

def itemForms (layout : Layout) (strictness : Strictness) (depth : Nat) :
    List Value → Except Fault (List (List Char))
  | [] => .ok []
  | v :: rest => do
    let form ← valueForm layout strictness depth v
    return form :: (← itemForms layout strictness depth rest)

/-- The JSON forms of the fields of an object, each a name, a colon and a value. -/
def fieldForms (layout : Layout) (strictness : Strictness) (depth : Nat) :
    List (String × Value) → Except Fault (List (List Char))
  | [] => .ok []
  | (name, v) :: rest => do
    let form ← valueForm layout strictness depth v
    return (textForm name ++ ':' :: ' ' :: form) :: (← fieldForms layout strictness depth rest)

end

def write (layout : Layout) (strictness : Strictness) (v : Value) : Except Fault String := do
  return String.ofList (← valueForm layout strictness 0 v)

end ContentGateway.Json
