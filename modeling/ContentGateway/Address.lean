import ContentGateway.Address.Path

/-!
# Addresses

An address is a base followed by a path, or a path that is a whole web address itself, and then the
parameters. A null parameter is left out. Names and values are percent-encoded and keep the dollar
sign, so the text of the parameters is `name=value` pairs between ampersands and can be cut up
again. It begins behind a question mark, or behind an ampersand where the address has one already.
A text with an unpaired half of a surrogate pair cannot be encoded, and then there is no address.
-/

namespace ContentGateway

/-- The base of the gateway's addresses, without slashes at its end. -/
structure Base where
  text : String
  deriving DecidableEq

namespace Base

/-- The base that a text gives. -/
def ofText (s : String) : Base := ⟨String.ofList ((s.toList.reverse.dropWhile (· = '/')).reverse)⟩

/-- The base that a value gives. It has to be a text. -/
def ofValue : Value → Except Fault Base
  | .text s => .ok (.ofText s)
  | .bytes _ => .error (.misuse .wrongType)
  | _ => .error (.misuse .noSuchMember)

/-- Whether a path is a whole web address. -/
def isWhole (path : String) : Bool :=
  "http://".toList.isPrefixOf path.toList || "https://".toList.isPrefixOf path.toList

/-- The address of a path without parameters. -/
def locate (base : Base) (path : String) : String :=
  if isWhole path then path else base.text ++ path

end Base

namespace Parameter

/-- A parameter's value as text: truth values are lower-case words. -/
def render : Value → Except Fault String
  | .bool b => .ok (if b then "true" else "false")
  | v => v.display

/-- The parameters that are not null, as texts. -/
def present : Fields → Except Fault (List (String × String))
  | [] => .ok []
  | (name, v) :: rest => do
    if v.isNull then present rest
    else
      let text ← render v
      return (name, text) :: (← present rest)

/-- The first parameter whose text has no UTF-8 form, if there is one. -/
def unpaired? (parameters : Fields) : Option Text.Broken :=
  parameters.findSome? fun field => field.2.unpaired?

def encode (s : String) : String := String.ofList (Text.percent ['$'] s.toList)

def join (pairs : List (String × String)) : String :=
  "&".intercalate (pairs.map fun pair => encode pair.1 ++ "=" ++ encode pair.2)

end Parameter

namespace Base

/-- The address of a path with parameters. They are all shown before any of them is encoded. -/
def build (base : Base) (path : String) (parameters : Fields) : Except Fault String := do
  let address := base.locate path
  let pairs ← Parameter.present parameters
  if let some t := Parameter.unpaired? parameters then throw (.unencodable t)
  if pairs.isEmpty then return address
  let separator := if address.toList.contains '?' then "&" else "?"
  return address ++ separator ++ Parameter.join pairs

end Base

end ContentGateway
