import ContentGateway.Query.Clause

/-!
# Queries

A query collects filter clauses in the order in which they are given, and keeps the latest sort
order, page limit, offset and search term. Compiling it gives the parameters of a listing request,
always in the order `$filter`, `$orderby`, `$top`, `$skip`, `$search`, each of them present only if
it was set. The clauses are joined by `and`, and a raw expression stands among them as it is.

Compiling leaves the query as it is, so it may go on growing afterwards.
-/

namespace ContentGateway

/-- One member of a filter: a clause, or an expression that is taken as it is. -/
inductive FilterPart where
  | clause (c : Clause)
  | raw (expression : Value)

/-- A member as filter text, as it is shown. An expression has to be a text. -/
def FilterPart.render : FilterPart → Except Fault String
  | .clause c => c.render
  | .raw (.text s) => .ok s
  | .raw (.unpaired t) => .ok t.mended
  | .raw _ => .error (.misuse .noSuchMember)

def FilterPart.points : FilterPart → Except Fault (List Text.Point)
  | .clause c => c.points
  | .raw (.unpaired t) => .ok t.points
  | .raw v => (Text.points ·.toList) <$> (FilterPart.raw v).render

structure SortOrder where
  field : Value
  direction : Value

def SortOrder.render (o : SortOrder) : Except Fault String := do
  let field ← o.field.display
  return field ++ " " ++ (← o.direction.display)

def SortOrder.points (o : SortOrder) : Except Fault (List Text.Point) := do
  let field ← o.field.displayPoints
  return field ++ Text.points [' '] ++ (← o.direction.displayPoints)

/-- What a listing asks for. A limit, offset or search term that is null is not set. -/
structure Query where
  parts : List FilterPart
  sortOrder : Option SortOrder
  top : Value
  skip : Value
  search : Value

namespace Query

def empty : Query := ⟨[], none, .null, .null, .null⟩

/-- What stands between two members of a filter. -/
def conjunction : String := " and "

/-- One setting of a query. -/
inductive Setting where
  | filter (part : FilterPart)
  | orderBy (order : SortOrder)
  | top (limit : Value)
  | skip (offset : Value)
  | search (term : Value)

/-- Adds a setting: filter members accumulate, any other setting replaces the last of its kind. -/
def set (q : Query) : Setting → Query
  | .filter part => { q with parts := q.parts ++ [part] }
  | .orderBy order => { q with sortOrder := some order }
  | .top limit => { q with top := limit }
  | .skip offset => { q with skip := offset }
  | .search term => { q with search := term }

/-- The filter text, if there is a filter, as it is shown. -/
def filterText (q : Query) : Except Fault (Option String) := do
  if q.parts.isEmpty then return none
  return some (conjunction.intercalate (← q.parts.mapM FilterPart.render))

def filterPoints (q : Query) : Except Fault (Option (List Text.Point)) := do
  if q.parts.isEmpty then return none
  return some ((Text.points conjunction.toList).intercalate (← q.parts.mapM FilterPart.points))

/-- A parameter that is present only if it was set. -/
def optional (name : String) (v : Value) : Fields := if v.isNull then [] else [(name, v)]

def compile (q : Query) : Except Fault Fields := do
  let filter : Fields := match ← q.filterPoints with
    | some ps => [("$filter", .ofPoints ps)]
    | none => []
  let order : Fields ← match q.sortOrder with
    | some order => do
      let ps ← order.points
      pure [("$orderby", .ofPoints ps)]
    | none => pure []
  return filter ++ order ++ optional "$top" q.top ++ optional "$skip" q.skip ++
    optional "$search" q.search

/-- A query as text, by the parameters that it compiles to. -/
def render (q : Query) : Except Fault String := do
  return labelled "QueryBuilder" [← (Value.dict (← q.compile)).render .quoted]

end Query

end ContentGateway
