import ContentGateway.Content.Service

/-!
# Walking through a listing

A walk delivers the contents of a selection page by page. It starts at the selection's offset, asks
for pages of one size, and moves the offset by what each page really held, so a gateway that sends
shorter pages than it was asked for loses nothing. It ends behind a page that is empty or reaches
the total.

A walk is lazy. A page is asked for only when a further content is wanted, so a walk with a limit
ends without looking at what comes behind, and a failure ends it behind the contents of the pages
before.
-/

namespace ContentGateway

/-- What a walk delivered, and the fault that ended it early, if any. -/
structure Delivery where
  items : List Content
  stoppedBy : Option Fault

namespace Walk

/-- The page size where none is asked for. -/
def standardPageSize : Value := .int 100

/-- The parameters of the page at an offset: those of the selection, and its place in the walk. -/
def pageParameters (parameters : Fields) (pageSize offset : Value) : Fields :=
  (Fields.put "$top" pageSize parameters).put "$skip" offset

/-- The offset behind a page, or none if the walk ends with it. -/
def nextOffset (offset : Value) (page : Page) : Except Fault (Option Value) := do
  let next ← offset.plus page.items.length
  if (← next.atLeast page.total) || page.items.isEmpty then return none
  return some next

/-- The part of a limit that is left behind some contents; none if it is reached. -/
def leftOf (limit : Option Nat) (count : Nat) : Option (Option Nat) :=
  match limit with
  | none => some none
  | some n => if n ≤ count then none else some (some (n - count))

/-- Walks on from an offset. A page takes at least one outcome off the tape, so with more steps than
outcomes the walk ends before its steps do. -/
def pagesFrom (fetch : Value → Job Page) : (steps : Nat) → Option Nat → Value → Job Delivery
  | 0, _, _ => Job.done ⟨[], some .tapeExhausted⟩
  | steps + 1, limit, offset => do
    match ← (fetch offset).attempt with
    | .error f => return ⟨[], some f⟩
    | .ok page =>
      match leftOf limit page.items.length with
      | none => return ⟨page.items.take (limit.getD 0), none⟩
      | some left =>
        match nextOffset offset page with
        | .error f => return ⟨page.items, some f⟩
        | .ok none => return ⟨page.items, none⟩
        | .ok (some next) =>
          let later ← pagesFrom fetch steps left next
          return ⟨page.items ++ later.items, later.stoppedBy⟩

end Walk

namespace Client

/-- Delivers the contents of a selection, up to a limit if there is one. -/
def walk (client : Client) (schema : Value) (selection : Selection) (pageSize : Value)
    (limit : Option Nat) : Job Delivery := fun tape =>
  if limit = some 0 then ⟨.ok ⟨[], none⟩, [], tape⟩
  else
    match selection.compile with
    | .error f => ⟨.ok ⟨[], some f⟩, [], tape⟩
    | .ok parameters =>
      let fetch := fun offset =>
        client.listPage schema (Walk.pageParameters parameters pageSize offset)
      Walk.pagesFrom fetch (tape.length + 1) limit ((Fields.get parameters "$skip").orElse (.int 0))
        tape

/-- All contents of a selection; a fault on any page fails the whole. -/
def listAll (client : Client) (schema : Value) (selection : Selection) : Job (List Content) := do
  let delivery ← client.walk schema selection Walk.standardPageSize none
  match delivery.stoppedBy with
  | some f => Job.fail f
  | none => return delivery.items

end Client

end ContentGateway
