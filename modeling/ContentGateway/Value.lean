import ContentGateway.Decimal.Binary64
import ContentGateway.Text.Points

/-!
# Values and faults

A *value* is what a reply, a setting or an option can hold: the values of JSON with whole numbers
and binary64 numbers kept apart, raw bytes, and a fault carried along as data. The fields of an
object keep the order in which they were first given. A text that holds half of a surrogate pair
without the other half is kept apart from the texts that are strings.

A *fault* is what ends an operation early. Failures of an attempt to reach the gateway and failures
classified for callers are told apart, since only the first are ever repeated; so are problems with
local input, conditions that the network or the system reports, and misuse of a value.
-/

namespace ContentGateway

/-- The kinds of classified failures of the gateway. -/
inductive FailureKind where
  | auth
  | notFound
  | validation
  | rateLimit
  | serverRetryable
  | unclassified
  | network
  deriving DecidableEq

/-- The kinds of problems with local input. -/
inductive ProblemKind where
  | general
  | validation
  | configuration
  deriving DecidableEq

/-- The conditions that the network, the system or a scripted reply reports. -/
inductive Condition where
  | unspecified
  | badValue
  | failedRun
  | missingKey
  | interrupted
  | systemCall
  | timedOut
  | connectionRefused
  | connectionReset
  | connectionAborted
  | brokenPipe
  | nameLookup
  | unreachable
  | disconnected
  | protocolFailure
  | shortRead
  | badStatusLine
  | invalidAddress
  | noSuchFile
  | notPermitted
  | callInterrupted
  | noSuchProcess
  | noChildProcess
  | wouldBlock
  | fileExists
  | notDirectory
  | isDirectory
  deriving DecidableEq

/-- The ways in which a value does not fit the operation it is put to. -/
inductive Misuse where
  | wrongType
  | noSuchMember
  | missingKey
  | tooLarge
  | tooLong
  deriving DecidableEq

mutual

/-- A value of a reply, a setting or an option. -/
inductive Value where
  | null
  | bool (b : Bool)
  | int (i : Int)
  | float (x : Binary64)
  | text (s : String)
  | unpaired (t : Text.Broken)
  | list (items : List Value)
  | dict (fields : List (String × Value))
  | bytes (data : List UInt8)
  | fault (f : Fault)

/-- What ends an operation early. -/
inductive Fault where
  /-- An attempt to reach the gateway failed; no status means that no reply came. -/
  | attempt (message : String) (status body : Value) (cause : Option Fault)
  /-- A failure classified for callers. -/
  | classified (kind : FailureKind) (message : String) (status details : Value)
      (retryable : Bool)
  /-- A problem with local input. -/
  | problem (kind : ProblemKind) (message : String) (details : Value)
  /-- A condition that was reported from outside, with what was reported about it. -/
  | condition (c : Condition) (args : List Value)
  /-- A reply whose status says that the request failed. -/
  | refusal (status : Value) (reason : String)
  /-- A value does not fit the operation. -/
  | misuse (m : Misuse)
  /-- A whole number is too long for an exchange with text; when read, its count of digits. -/
  | digitLimit (digits : Option Nat)
  /-- A text with an unpaired half of a surrogate pair has no UTF-8 form. -/
  | unencodable (t : Text.Broken)
  /-- A status action that contents do not have. -/
  | unknownAction (shown : String)
  /-- An address that does not begin with a scheme. -/
  | unknownScheme (address : String)
  /-- No recorded outcome is left for a request. -/
  | tapeExhausted

end

instance : Inhabited Value := ⟨.null⟩

instance : Inhabited Fault := ⟨.tapeExhausted⟩

/-- The fields of an object, in the order in which their names were first given. -/
abbrev Fields := List (String × Value)

namespace Fields

def find? (name : String) : Fields → Option Value
  | [] => none
  | (k, v) :: rest => if k = name then some v else find? name rest

/-- The value of a field, null where there is none. -/
def get (fields : Fields) (name : String) : Value := (fields.find? name).getD .null

/-- Sets a field: a known name keeps its place, a new one comes last. -/
def put (name : String) (value : Value) : Fields → Fields
  | [] => [(name, value)]
  | (k, v) :: rest => if k = name then (k, value) :: rest else (k, v) :: put name value rest

/-- Sets several fields one after the other. -/
def putAll (fields : Fields) (more : List (String × Value)) : Fields :=
  more.foldl (fun fields field => fields.put field.1 field.2) fields

/-- The fields given by a list in which a later value of a name replaces an earlier one. -/
def ofList (pairs : List (String × Value)) : Fields := putAll [] pairs

end Fields

namespace Value

/-- Whether a value counts as present: not null, false, zero or empty. NaN counts. -/
def truthy : Value → Bool
  | .null => false
  | .bool b => b
  | .int i => i ≠ 0
  | .float x => !x.isZero
  | .text s => !s.isEmpty
  | .unpaired _ => true
  | .list items => !items.isEmpty
  | .dict fields => !fields.isEmpty
  | .bytes data => !data.isEmpty
  | .fault _ => true

/-- The first value if it counts as present, otherwise the second. -/
def orElse (first second : Value) : Value := if first.truthy then first else second

def isNull : Value → Bool
  | .null => true
  | _ => false

/-- The broken text that a value is, if it is one. -/
def unpaired? : Value → Option Text.Broken
  | .unpaired t => some t
  | _ => none

/-- The text of some points. -/
def ofPoints (ps : List Text.Point) : Value :=
  if h : Text.isBroken ps then .unpaired ⟨ps, h⟩ else .text (Text.mended ps)

/-- The values that a value is a sequence of: the items of a list, the characters of a text, the
names of an object's fields, the numbers of the bytes. -/
def elements : Value → Except Fault (List Value)
  | .list items => .ok items
  | .text s => .ok (s.toList.map fun c => .text (String.singleton c))
  | .unpaired t => .ok (t.points.map fun p => ofPoints [p])
  | .dict fields => .ok (fields.map fun field => .text field.1)
  | .bytes data => .ok (data.map fun b => .int b.toNat)
  | _ => .error (.misuse .wrongType)

/-- How many values a value is a sequence of. -/
def length : Value → Except Fault Nat
  | .list items => .ok items.length
  | .text s => .ok s.length
  | .unpaired t => .ok t.points.length
  | .dict fields => .ok fields.length
  | .bytes data => .ok data.length
  | _ => .error (.misuse .wrongType)

end Value

end ContentGateway
