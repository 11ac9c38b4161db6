import ContentGateway.Content.Item
import ContentGateway.Query
import ContentGateway.Transport.Client

/-!
# Operations on contents

The operations of a client on the contents of a schema. Each is one call, whose path, parameters,
data and headers say what is asked, and reads the reply as what it documents: a page, a content, or
a content if there is one. Writing may be answered without a content, reading may not.
-/

namespace ContentGateway

/-- What a listing asks for: everything, a query, or parameters that are compiled already. -/
inductive Selection where
  | everything
  | query (q : Query)
  | parameters (fields : Fields)

def Selection.compile : Selection → Except Fault Fields
  | .everything => .ok []
  | .query q => q.compile
  | .parameters fields => .ok fields

/-- How a content is created: published at once, under an identifier of its own. -/
structure CreateOptions where
  publish : Value
  id : Value

/-- How a content is updated: in part, and only at a version. -/
structure UpdateOptions where
  patch : Value
  expectedVersion : Value

/-- How a content is deleted: for good. -/
structure DeleteOptions where
  permanent : Value

/-- No special way of creating. -/
def CreateOptions.standard : CreateOptions := ⟨.bool false, .null⟩

namespace Client

/-- Lists one page of a schema's contents by compiled parameters. -/
def listPage (client : Client) (schema : Value) (parameters : Fields) : Job Page := do
  let path ← Path.collection schema
  Page.ofReply (← client.get path parameters)

def list (client : Client) (schema : Value) (selection : Selection) : Job Page := do
  let path ← Path.collection schema
  let parameters ← selection.compile
  Page.ofReply (← client.get path parameters)

/-- The failure that a content was asked for and none came. -/
def noContent (schema id : Value) : Except Fault Fault := do
  return .classified .unclassified ("Empty response for content " ++ (← id.display)) .null
    (.dict [("schema", schema), ("id", id)]) false

def getContent (client : Client) (schema id : Value) : Job Content := do
  let path ← Path.item schema id
  match ← Content.ofReply (← client.get path []) with
  | some c => return c
  | none => do
    let f ← noContent schema id
    Job.fail f

def create (client : Client) (schema data : Value) (options : CreateOptions) :
    Job (Option Content) := do
  let path ← Path.collection schema
  let parameters := [("publish", options.publish.orElse .null), ("id", options.id)]
  Content.ofReply (← client.post path data parameters)

/-- The headers that make an update depend on a version. -/
def versionHeaders (expected : Value) : Except Fault Fields := do
  if expected.isNull then return []
  return [("If-Match", .text (← expected.display))]

/-- Updates a content, as a whole or in part. -/
def update (client : Client) (schema id data : Value) (options : UpdateOptions) :
    Job (Option Content) := do
  let headers ← versionHeaders options.expectedVersion
  let path ← Path.item schema id
  if options.patch.truthy then Content.ofReply (← client.patch path data headers)
  else Content.ofReply (← client.put path data headers)

def deleteContent (client : Client) (schema id : Value) (options : DeleteOptions) :
    Job Unit := do
  let path ← Path.item schema id
  let _ ← client.delete path [("permanent", options.permanent.orElse .null)]
  return ()

def changeStatus (client : Client) (schema id : Value) (action : StatusAction) :
    Job (Option Content) := do
  let path ← Path.statusAction schema id action
  Content.ofReply (← client.put path .null [])

end Client

end ContentGateway
