import ContentGateway.Command.Assignment
import ContentGateway.Command.Grammar
import ContentGateway.Query
import ContentGateway.Text.Basic

/-!
# Queries from flags

The filter flags become the members of a filter in the order in which they were typed. Equality and
membership read their operands as values, the comparisons accept numbers only, and the functions
take their text as it is. After them the sort order, the limit, the offset and the search term are
set, each as it was typed last.
-/

namespace ContentGateway.Command

/-- A number as it was typed; truth values are none. -/
def parseNumber (operator : Operator) (s : String) : Except Fault Value := do
  match ← parseValue s with
  | .int i => return .int i
  | .float x => return .float x
  | _ =>
    throw (invalid ("--" ++ operator.word ++ " expects a number, got: " ++ Text.quoted s))

/-- Values with commas between them; an empty text holds none. -/
def parseList (s : String) : Except Fault (List Value) :=
  if s.isEmpty then .ok []
  else (Text.splitAll ',' s.toList).mapM fun part => parseValue (String.ofList part)

/-- The operand that an operator makes of a text. -/
def parseOperand (operator : Operator) (s : String) : Except Fault Value := do
  match operator with
  | .equals | .notEquals => parseValue s
  | .greaterThan | .greaterOrEqual | .lessThan | .lessOrEqual => parseNumber operator s
  | .isIn => return .list (← parseList s)
  | _ => return .text s

def filterPart (flag : FilterFlag) (argument : Value) : Except Fault FilterPart :=
  match flag with
  | .raw => .ok (.raw argument)
  | .clause operator =>
    match argument with
    | .text s => do
      let (field, value) ← splitAssignment s
      return .clause ⟨.text field, operator, ← parseOperand operator value⟩
    | _ => .error (.misuse .noSuchMember)

def filterParts : List (String × Value) → Except Fault (List FilterPart)
  | [] => .ok []
  | (name, argument) :: rest =>
    match FilterFlag.ofName? name with
    | none => filterParts rest
    | some flag => do
      let part ← filterPart flag argument
      return part :: (← filterParts rest)

/-- The sort order that a text asks for: a field, and a direction if there is one. -/
def parseOrder (s : String) : Except Fault SortOrder :=
  match (Text.words s.toList).map String.ofList with
  | [field] => .ok ⟨.text field, .text "asc"⟩
  | [field, direction] =>
    if direction = "asc" || direction = "desc" then .ok ⟨.text field, .text direction⟩
    else .error unreadable
  | _ => .error unreadable
where
  /-- The text asks for no order. -/
  unreadable : Fault :=
    invalid ("--orderby expects 'field [asc|desc]', got: " ++ Text.quoted s)

/-- The sort order that was typed, if any. An empty one does not count. -/
def sortOrder (argument : Value) : Except Fault (Option SortOrder) :=
  match argument with
  | .text s => if s.isEmpty then .ok none else some <$> parseOrder s
  | _ => .ok none

/-- The query that flags ask for. -/
def queryOf (arguments : Arguments) : Except Fault Query := do
  let parts ← filterParts arguments.given
  let order ← sortOrder (arguments.value "--orderby")
  return ⟨parts, order, arguments.value "--top", arguments.value "--skip",
    arguments.value "--search"⟩

end ContentGateway.Command
