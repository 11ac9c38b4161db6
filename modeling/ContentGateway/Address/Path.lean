import ContentGateway.Text.Percent
import ContentGateway.Value.Render

/-!
# Paths of contents

The gateway keeps the contents of a schema in a collection. A content is an item of its collection
and a status action is addressed below its item. Schema and identifier are one segment each: they
are percent-encoded with nothing kept, so no slash, question mark or number sign in them is read as
a part of the address.
-/

namespace ContentGateway

/-- The actions on the status of a content. -/
inductive StatusAction where
  | publish
  | unpublish
  | archive
  | restore
  deriving DecidableEq

namespace StatusAction

def word : StatusAction → String
  | .publish => "publish"
  | .unpublish => "unpublish"
  | .archive => "archive"
  | .restore => "restore"

def all : List StatusAction := [.publish, .unpublish, .archive, .restore]

def ofWord? (w : String) : Option StatusAction := all.find? fun a => a.word = w

end StatusAction

namespace Path

/-- A schema or an identifier as one segment of a path. Bytes are encoded as they are; a text that
has no UTF-8 form cannot be encoded. -/
def segment : Value → Except Fault String
  | .text s => .ok (String.ofList (Text.percent [] s.toList))
  | .unpaired t => .error (.unencodable t)
  | .bytes data => .ok (String.ofList (Text.percentBytes [] data))
  | _ => .error (.misuse .wrongType)

/-- The path of a schema's contents. -/
def collection (schema : Value) : Except Fault String := do
  return "/squidex/content/" ++ (← segment schema)

/-- The path of one content. -/
def item (schema id : Value) : Except Fault String := do
  let collection ← collection schema
  return collection ++ "/" ++ (← segment id)

/-- The path of an action on the status of a content. -/
def statusAction (schema id : Value) (action : StatusAction) : Except Fault String := do
  return (← item schema id) ++ "/" ++ action.word

/-- The path of the action that a value names. -/
def namedAction (schema id action : Value) : Except Fault String := do
  let found := match action with
    | .text w => StatusAction.ofWord? w
    | _ => none
  match found with
  | some a => statusAction schema id a
  | none => .error (.unknownAction (← action.display))

end Path

end ContentGateway
