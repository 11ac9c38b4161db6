import ContentGateway.Value

/-!
# Contents and pages

A content is an item of some schema: an identifier, the data that the schema shapes, and what the
gateway keeps about it. An object of a reply is read as a content if it has an `id`. Everything else
may be missing, and the compound names may be spelled in either of two ways, of which the first that
counts as present is taken.

A listing is answered page by page. A page holds contents and the total count of what matches, which
is the count of its own contents where the gateway gives none.
-/

namespace ContentGateway

/-- An item of a schema. -/
structure Content where
  id : Value
  data : Value
  version : Value
  created : Value
  createdBy : Value
  lastModified : Value
  lastModifiedBy : Value
  status : Value
  newStatus : Value

namespace Content

/-- The content in the fields of an object, which has this identifier. -/
def ofFields (id : Value) (fields : Fields) : Content where
  id := id
  data := (fields.get "data").orElse (.dict [])
  version := (Fields.find? "version" fields).getD (.int 0)
  created := fields.get "created"
  createdBy := (fields.get "createdBy").orElse (fields.get "created_by")
  lastModified := (fields.get "lastModified").orElse (fields.get "last_modified")
  lastModifiedBy := (fields.get "lastModifiedBy").orElse (fields.get "last_modified_by")
  status := fields.get "status"
  newStatus := (fields.get "newStatus").orElse (fields.get "new_status")

/-- The content that a value of a reply describes. -/
def ofValue : Value → Except Fault Content
  | .dict fields =>
    match Fields.find? "id" fields with
    | some id => .ok (ofFields id fields)
    | none => .error (.misuse .missingKey)
  | _ => .error (.misuse .wrongType)

/-- The object that describes a content. A pending status is there only if it is set. -/
def toValue (c : Content) : Value :=
  .dict ([("id", c.id), ("created", c.created), ("createdBy", c.createdBy),
    ("lastModified", c.lastModified), ("lastModifiedBy", c.lastModifiedBy), ("data", c.data),
    ("version", c.version), ("status", c.status)] ++
    (if c.newStatus.truthy then [("newStatus", c.newStatus)] else []))

/-- The object that describes a content in a listing. -/
def summary (c : Content) : Value :=
  .dict [("id", c.id), ("status", c.status), ("version", c.version),
    ("lastModified", c.lastModified), ("data", c.data)]

/-- The content in a reply that may hold none. -/
def ofReply : Value → Except Fault (Option Content)
  | .dict fields => some <$> ofValue (.dict fields)
  | _ => .ok none

end Content

/-- A page of a listing. -/
structure Page where
  total : Value
  items : List Content

namespace Page

/-- The page that a value of a reply describes. -/
def ofValue : Value → Except Fault Page
  | .dict fields => do
    let entries ← ((Fields.get fields "items").orElse (.list [])).elements
    let items ← entries.mapM Content.ofValue
    let total := Fields.get fields "total"
    return ⟨if total.isNull then .int items.length else total, items⟩
  | _ => .error (.misuse .noSuchMember)

/-- The page in a reply that may be empty. -/
def ofReply (v : Value) : Except Fault Page := ofValue (v.orElse (.dict []))

end Page

end ContentGateway
