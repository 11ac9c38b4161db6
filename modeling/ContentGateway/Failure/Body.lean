import ContentGateway.Value.Render

/-!
# What a failed reply says

The body of a failed reply may explain the failure. The explanation is looked for in fixed places:
the body itself if it is a text; in an object its `message`, its `error`, the `message` inside its
`error`, and the entries of its `details` joined by commas. The first place that holds a text
counts, even an empty one; an empty body explains nothing.

The details of a failure are the body if it is an object, or an object around it if it is a text.
-/

namespace ContentGateway.Failure

/-- The text that a value is, as it is shown. -/
def text? : Value → Option String
  | .text s => some s
  | .unpaired t => some t.mended
  | _ => none

/-- The text in the `message` of an object. -/
def messageIn? : Value → Option String
  | .dict fields => text? (Fields.get fields "message")
  | _ => none

/-- An entry of `details`: a text, the `message` of an object, or else how the entry is shown. -/
def detailText (v : Value) : Except Fault String :=
  match text? v, messageIn? v with
  | some s, _ => .ok s
  | none, some s => .ok s
  | none, none => v.display

def fieldsMessage (fields : Fields) : Except Fault (Option String) := do
  if let some s := text? (fields.get "message") then return some s
  if let some s := text? (fields.get "error") then return some s
  if let some s := messageIn? (fields.get "error") then return some s
  match fields.get "details" with
  | .list entries => return some (commaSeparated (← entries.mapM detailText))
  | _ => return none

def bodyMessage (body : Value) : Except Fault (Option String) :=
  if !body.truthy then .ok none
  else
    match body with
    | .text s => .ok (some s)
    | .unpaired t => .ok (some t.mended)
    | .dict fields => fieldsMessage fields
    | _ => .ok none

/-- The details that a body gives, null if none. -/
def bodyDetails (body : Value) : Value :=
  if !body.truthy then .null
  else
    match body with
    | .text s => .dict [("message", .text s)]
    | .unpaired t => .dict [("message", .unpaired t)]
    | .dict fields => .dict fields
    | _ => .null

end ContentGateway.Failure
