import ContentGateway.Json.Printer
import ContentGateway.Settings
import ContentGateway.Text.Basic
import ContentGateway.Text.Case

/-!
# Requests

A request is made from a call and the client's settings. Its headers come from three sources, the
defaults, the settings and the call: a source replaces the headers that an earlier one gave under
the very same name, which keep their place, and adds the others behind. Then each name takes its one
spelling, and of names that become equal the last counts.

The address is taken out of blanks, angle brackets and a leading `URL:`, and loses an empty fragment
at its end. What is left has to begin with a scheme: some characters before a colon, none of them a
slash.
-/

namespace ContentGateway

/-- What a caller asks the transport for. -/
structure Call where
  method : String
  path : String
  parameters : Fields
  data : Value
  headers : Fields

namespace Call

/-- A call without parameters, data and headers. -/
def plain (method path : String) : Call := ⟨method, path, [], .null, []⟩

end Call

/-- A request as it is sent. The headers are in the order of their names. -/
structure Request where
  method : String
  address : String
  body : Option String
  headers : Fields
  timeout : Value

namespace Request

/-! ## Headers -/

/-- The headers that every request has unless others replace them. -/
def defaultHeaders : Fields :=
  [("Content-Type", .text "application/json"), ("Accept", .text "application/json")]

/-- The headers of all sources, under the names that the sources use. -/
def mergedHeaders (settings : Settings) (headers : Fields) : Except Fault Fields :=
  match settings.headers with
  | .dict configured => .ok (Fields.putAll (Fields.putAll defaultHeaders configured) headers)
  | _ => .error (.misuse .wrongType)

/-- The one spelling of a header's name: the first letter upper case, every other lower case. -/
def headerName (name : String) : String := String.ofList (Text.capitalize name.toList)

/-- Headers under their one spelling. -/
def spelled (headers : Fields) : Fields :=
  Fields.ofList (headers.map fun header => (headerName header.1, header.2))

def sorted (headers : Fields) : Fields :=
  headers.mergeSort fun a b => decide (a.1 ≤ b.1)

/-! ## Address -/

/-- What a wrapped address holds: the text without blanks, angle brackets and `URL:` around it. -/
def unwrapped (address : String) : List Char :=
  let cs := Text.strip address.toList
  let cs := if cs.head? = some '<' && cs.getLast? = some '>' then Text.strip (cs.drop 1).dropLast
    else cs
  if "URL:".toList.isPrefixOf cs then Text.strip (cs.drop 4) else cs

/-- The text before the last number sign and the text behind it, if there is one. -/
def splitFragment (cs : List Char) : List Char × Option (List Char) :=
  let back := cs.reverse
  match back.dropWhile (· ≠ '#') with
  | [] => (cs, none)
  | _ :: front => (front.reverse, some (back.takeWhile (· ≠ '#')).reverse)

def hasScheme (cs : List Char) : Bool :=
  let scheme := cs.takeWhile fun c => c ≠ ':' && c ≠ '/'
  !scheme.isEmpty && (cs.drop scheme.length).head? = some ':'

/-- The address that a request to a text goes to. -/
def target (address : String) : Except Fault String :=
  let cs := unwrapped address
  let (front, fragment) := splitFragment cs
  let full := String.ofList (if fragment = some [] then front else cs)
  if hasScheme front then .ok full else .error (.unknownScheme full)

/-! ## The whole request -/

/-- The body that carries data; there is none for null. -/
def bodyFor (data : Value) : Except Fault (Option String) :=
  if data.isNull then .ok none else some <$> Json.write .oneLine .strict data

/-- The method that is sent: where a call names none, it depends on the body. -/
def methodFor (method : String) (body : Option String) : String :=
  if method.isEmpty then (if body.isSome then "POST" else "GET") else method

/-- The request of a call whose address, headers and body are settled. -/
def assemble (settings : Settings) (method address : String) (headers : Fields)
    (body : Option String) : Except Fault Request := do
  return {
    method := methodFor method body
    address := ← target address
    body
    headers := sorted (spelled headers)
    timeout := settings.timeout }

end Request

end ContentGateway
