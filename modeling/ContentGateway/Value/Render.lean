import ContentGateway.Decimal.Shortest
import ContentGateway.Text.Quoted
import ContentGateway.Value.Condition
import ContentGateway.Value.Number

/-!
# Values as text

A value is shown in one of two styles. In the *bare* style a text is its own characters, with a mark
in the place of an unpaired half of a surrogate pair, and a fault is its message; in the *quoted*
style a text stands in quotes and a fault under its label with what it holds in parentheses.
Everything else looks the same in both, and whatever is inside a list or an object is shown quoted.

Showing fails only on a whole number of more digits than are exchanged with text.
-/

namespace ContentGateway

/-- How a text or a fault is shown. -/
inductive Style where
  | bare
  | quoted
  deriving DecidableEq

/-- Items with a comma and a space between them. -/
def commaSeparated (items : List String) : String := ", ".intercalate items

def Fault.label : Fault → String
  | .attempt .. => "TransportError"
  | .classified .. => "SquidexError"
  | .problem kind .. => kind.label
  | .condition c _ => c.label
  | .refusal .. => "HTTPError"
  | .misuse m => m.label
  | .digitLimit _ | .unknownAction _ | .unknownScheme _ => Condition.badValue.label
  | .unencodable _ => "UnicodeEncodeError"
  | .tapeExhausted => "NoMoreResponses"

/-- A label with what it holds in parentheses. -/
def labelled (label : String) (items : List String) : String :=
  label ++ "(" ++ commaSeparated items ++ ")"

/-- The wording of a refused exchange of a whole number with text. -/
def digitLimitMessage (digits : Option Nat) : String :=
  let limit := "Exceeds the limit (" ++ toString Decimal.digitLimit ++
    " digits) for integer string conversion"
  let seen := match digits with
    | some n => ": value has " ++ toString n ++ " digits"
    | none => ""
  limit ++ seen ++ "; use sys.set_int_max_str_digits() to increase the limit"

/-- How much more of a reply was expected, if that is known. -/
def expectedMore : Value → Except Fault (List String)
  | .null => .ok []
  | expected => do return [(← expected.wholePart) ++ " more expected"]

/-- How much of a reply was read, and how much more was expected. What was expected is settled
first. -/
def shortReadMessage (args : List Value) : Except Fault String := do
  let more ← expectedMore ((args.drop 1).headD .null)
  let read ← (args.headD .null).length
  return labelled Condition.shortRead.label ((toString read ++ " bytes read") :: more)

/-- The message of a numbered condition: its number, its text, and what it is about. -/
def numberedMessage (number text : String) (subjects : List String) : String :=
  let opening := "[Errno " ++ number ++ "] " ++ text
  if subjects.isEmpty then opening else opening ++ ": " ++ " -> ".intercalate subjects

mutual

def Value.render (style : Style) : Value → Except Fault String
  | .null => .ok "None"
  | .bool b => .ok (if b then "True" else "False")
  | .int i => Value.wholeText i
  | .float x => .ok x.text
  | .text s =>
    .ok (match style with
      | .bare => s
      | .quoted => Text.quoted s)
  | .unpaired t =>
    .ok (match style with
      | .bare => t.mended
      | .quoted => t.quoted)
  | .list items => do return "[" ++ commaSeparated (← Value.renderItems items) ++ "]"
  | .dict fields => do
    return "\x7b" ++ commaSeparated (← Value.renderFields fields) ++ "\x7d"
  | .bytes data => .ok (Text.quotedBytes data)
  | .fault f => f.render style

def Value.renderItems : List Value → Except Fault (List String)
  | [] => .ok []
  | v :: rest => do
    let shown ← v.render .quoted
    return shown :: (← Value.renderItems rest)

/-- The fields of an object, each name and value quoted. -/
def Value.renderFields : List (String × Value) → Except Fault (List String)
  | [] => .ok []
  | (name, v) :: rest => do
    let shown ← v.render .quoted
    return (Text.quoted name ++ ": " ++ shown) :: (← Value.renderFields rest)

/-- What a numbered condition is about, each quoted, when it is reported with these arguments behind
its text. -/
def Value.renderSubjects (c : Condition) : List Value → Except Fault (List String)
  | [] => .ok []
  | first :: more => do
    if c.isAbout first then
      let shown ← first.render .quoted
      match more with
      | [_, second] =>
        if second.isNull then return [shown] else return [shown, ← second.render .quoted]
      | _ => return [shown]
    else return []

/-- A fault as text: its message, or its label with what it holds. -/
def Fault.render (style : Style) : Fault → Except Fault String
  | .attempt message _ _ _ =>
    .ok (match style with
      | .bare => message
      | .quoted => labelled "TransportError" [Text.quoted message])
  | .classified kind message status _ _ =>
    match style with
    | .bare => .ok message
    | .quoted => do
      let shown ← status.render .quoted
      return labelled "SquidexError" ["kind=" ++ Text.quoted kind.name, "status=" ++ shown,
        "message=" ++ Text.quoted message]
  | .problem kind message _ =>
    .ok (match style with
      | .bare => message
      | .quoted => labelled kind.label [Text.quoted message])
  | .condition c args =>
    match c, style with
    | .shortRead, _ => shortReadMessage args
    | c, .quoted =>
      match args with
      | [] => .ok (labelled c.label [])
      | [v] => do return labelled c.label [← v.render .quoted]
      | number :: text :: more => do
        let number ← number.render .quoted
        let text ← text.render .quoted
        if c.hasNumber more.length && c.isAbout (more.headD .null) then
          return labelled c.label [number, text]
        else return labelled c.label (number :: text :: (← Value.renderItems more))
    | .missingKey, .bare =>
      match args with
      | [] => .ok ""
      | [v] => v.render .quoted
      | args => do return "(" ++ commaSeparated (← Value.renderItems args) ++ ")"
    | .unreachable, .bare =>
      match args with
      | [] => .ok ""
      | reason :: _ => do return "<urlopen error " ++ (← reason.render .bare) ++ ">"
    | c, .bare =>
      match args with
      | [] => .ok ""
      | [v] => v.render .bare
      | number :: text :: more =>
        if c.hasNumber more.length then do
          let number ← number.render .bare
          let text ← text.render .bare
          return numberedMessage number text (← Value.renderSubjects c more)
        else do
          let number ← number.render .quoted
          let text ← text.render .quoted
          return "(" ++ commaSeparated (number :: text :: (← Value.renderItems more)) ++ ")"
  | .refusal status reason => do
    let shown ← status.render .bare
    return match style with
      | .bare => "HTTP Error " ++ shown ++ ": " ++ reason
      | .quoted => "<HTTPError " ++ shown ++ ": " ++ Text.quoted reason ++ ">"
  | .misuse _ => .ok ""
  | .digitLimit digits => .ok (digitLimitMessage digits)
  | .unencodable t => .ok t.message
  | .unknownAction shown => .ok ("Unknown content action: " ++ shown)
  | .unknownScheme address => .ok ("unknown url type: " ++ Text.quoted address)
  | .tapeExhausted => .ok "no scripted response left"

end

def Value.display (v : Value) : Except Fault String := v.render .bare

def Fault.message (f : Fault) : Except Fault String := f.render .bare

/-- The kind of system condition that a whole number says; any other value says none. -/
def Condition.ofValue : Value → Condition
  | .int i => .ofNumber i
  | .bool b => .ofNumber (if b then 1 else 0)
  | _ => .systemCall

/-- A system condition as it is reported: without a kind of its own, it takes the kind that its
number says. Of an unreachable host only the reason is kept, and a status line that is empty is
reported quoted. -/
def Fault.reported (c : Condition) (args : List Value) : Except Fault Fault :=
  match c, args with
  | .systemCall, number :: _ :: more =>
    .ok (.condition (if c.hasNumber more.length then .ofValue number else c) args)
  | .unreachable, reason :: _ => .ok (.condition c [reason])
  | .badStatusLine, [line] =>
    if line.truthy then .ok (.condition c args)
    else do return .condition c [.text (← line.render .quoted)]
  | c, args => .ok (.condition c args)

end ContentGateway
