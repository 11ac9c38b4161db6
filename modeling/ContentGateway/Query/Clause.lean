import ContentGateway.Value.Render

/-!
# Filter clauses

A clause puts a field to the test of one operator. In the filter text an operand is written either
as a *literal*, where texts stand in single quotes, or *plainly*, without quotes. Truth values are
lower-case words, and a binary64 number that is whole is written without a fraction. Quotes inside a
text are written as they are: an operand that holds one can end its literal early.

Equality and its negation take literals, membership takes a list of literals, a function takes its
operand between quotes whatever it is, and every other operator takes a plain operand.

The filter text goes on into an address, so it is not enough to know how a clause is shown: where a
text in it is broken, the filter text is too. It is made up of points.
-/

namespace ContentGateway

/-- The operator of a clause. -/
inductive Operator where
  | equals
  | notEquals
  | greaterThan
  | greaterOrEqual
  | lessThan
  | lessOrEqual
  | contains
  | startsWith
  | endsWith
  | isIn
  | other (word : String)
  deriving DecidableEq

namespace Operator

def word : Operator → String
  | .equals => "eq"
  | .notEquals => "ne"
  | .greaterThan => "gt"
  | .greaterOrEqual => "ge"
  | .lessThan => "lt"
  | .lessOrEqual => "le"
  | .contains => "contains"
  | .startsWith => "startswith"
  | .endsWith => "endswith"
  | .isIn => "in"
  | .other word => word

def known : List Operator := [.equals, .notEquals, .greaterThan, .greaterOrEqual, .lessThan,
  .lessOrEqual, .contains, .startsWith, .endsWith, .isIn]

def ofWord (w : String) : Operator := (known.find? fun op => op.word = w).getD (.other w)

end Operator

namespace Value

/-- An operand without quotes. -/
def plain : Value → Except Fault String
  | .bool b => .ok (if b then "true" else "false")
  | .float x =>
    match x.isWhole, x.truncate? with
    | true, some i => wholeText i
    | _, _ => .ok x.text
  | v => v.display

/-- An operand with quotes around a text. -/
def literal : Value → Except Fault String
  | .text s => .ok ("'" ++ s ++ "'")
  | .unpaired t => .ok ("'" ++ t.mended ++ "'")
  | v => v.plain

def displayPoints : Value → Except Fault (List Text.Point)
  | .unpaired t => .ok t.points
  | v => (Text.points ·.toList) <$> v.display

def plainPoints : Value → Except Fault (List Text.Point)
  | .unpaired t => .ok t.points
  | v => (Text.points ·.toList) <$> v.plain

/-- The points of an operand with quotes around a text. -/
def literalPoints : Value → Except Fault (List Text.Point)
  | .unpaired t => .ok (.char '\'' :: t.points ++ [.char '\''])
  | v => (Text.points ·.toList) <$> v.literal

end Value

/-- One condition on a field. -/
structure Clause where
  field : Value
  operator : Operator
  operand : Value

namespace Clause

/-- A clause that a field's value is one of several. What they are is settled at once. -/
def membership (field values : Value) : Except Fault Clause := do
  return ⟨field, .isIn, .list (← values.elements)⟩

/-- A clause as filter text, as it is shown. -/
def render (c : Clause) : Except Fault String := do
  match c.operator with
  | .contains | .startsWith | .endsWith =>
    let field ← c.field.display
    return c.operator.word ++ "(" ++ field ++ ", '" ++ (← c.operand.display) ++ "')"
  | .isIn =>
    let values ← (← c.operand.elements).mapM Value.literal
    return (← c.field.display) ++ " in (" ++ ",".intercalate values ++ ")"
  | .equals | .notEquals =>
    let field ← c.field.display
    return field ++ " " ++ c.operator.word ++ " " ++ (← c.operand.literal)
  | _ =>
    let field ← c.field.display
    return field ++ " " ++ c.operator.word ++ " " ++ (← c.operand.plain)

def points (c : Clause) : Except Fault (List Text.Point) := do
  let word := Text.points c.operator.word.toList
  match c.operator with
  | .contains | .startsWith | .endsWith =>
    let field ← c.field.displayPoints
    return word ++ Text.points ['('] ++ field ++ Text.points [',', ' ', '\''] ++
      (← c.operand.displayPoints) ++ Text.points ['\'', ')']
  | .isIn =>
    let values ← (← c.operand.elements).mapM Value.literalPoints
    return (← c.field.displayPoints) ++ Text.points [' ', 'i', 'n', ' ', '('] ++
      (Text.points [',']).intercalate values ++ Text.points [')']
  | .equals | .notEquals =>
    let field ← c.field.displayPoints
    return field ++ Text.points [' '] ++ word ++ Text.points [' '] ++ (← c.operand.literalPoints)
  | _ =>
    let field ← c.field.displayPoints
    return field ++ Text.points [' '] ++ word ++ Text.points [' '] ++ (← c.operand.plainPoints)

end Clause

end ContentGateway
