import ContentGateway.Query

/-!
# Several queries at once

A workbench holds queries that grow side by side. A call gives one of them a setting; a call that
fails leaves everything as it is. A copy starts with what its model held at that moment, and from
then on neither sees what the other is given. Building a query leaves it as it is.
-/

namespace ContentGateway

namespace Query

inductive Call where
  | filter (field : Value) (operator : Operator) (operand : Value)
  | raw (expression : Value)
  | orderBy (order : SortOrder)
  | top (limit : Value)
  | skip (offset : Value)
  | search (term : Value)

def Call.setting : Call → Except Fault Setting
  | .filter field .isIn values => do return .filter (.clause (← Clause.membership field values))
  | .filter field operator operand => .ok (.filter (.clause ⟨field, operator, operand⟩))
  | .raw expression => .ok (.filter (.raw expression))
  | .orderBy order => .ok (.orderBy order)
  | .top limit => .ok (.top limit)
  | .skip offset => .ok (.skip offset)
  | .search term => .ok (.search term)

end Query

/-- Queries by number, in the order in which they came up. -/
structure Workbench where
  queries : List Query

namespace Workbench

/-- What can be done at a workbench. -/
inductive Step where
  | call (index : Nat) (call : Query.Call)
  | copy (index : Nat)
  | build (index : Nat)

/-- What a step gives. -/
inductive Answer where
  | done
  | copied (index : Nat)
  | built (parameters : Fields)

/-- One empty query. -/
def empty : Workbench := ⟨[.empty]⟩

def get (w : Workbench) (index : Nat) : Query := (w.queries[index]?).getD .empty

/-- Takes a step: how it ends, and the workbench behind it. A copy takes the next free number. -/
def take (w : Workbench) : Step → Except Fault Answer × Workbench
  | .call index call =>
    match call.setting with
    | .ok setting => (.ok .done, ⟨w.queries.modify index (·.set setting)⟩)
    | .error f => (.error f, w)
  | .copy index => (.ok (.copied w.queries.length), ⟨w.queries ++ [w.get index]⟩)
  | .build index => ((w.get index).compile.map .built, w)

end Workbench

end ContentGateway
