import ContentGateway.Failure.Body
import ContentGateway.Value.Order

/-!
# Classifying failures

Callers see one shape of failure. The status of a reply decides its kind by a table, and whether the
table calls it retryable; a failure without a reply is one of the network. The message is the first
that is not empty: what the reply says, what the attempt says, what the table says.

A failure without a reply is told apart by a short code: the number of the system condition behind
it, or else its label. An unreachable host says why it is unreachable, and where that is a fault of
its own, the code is the one of that fault, however often the fault is wrapped.

The transport repeats an attempt by a wider rule than the table's: after no reply, after status 429,
and after every status from 500 on.
-/

namespace ContentGateway.Failure

/-! ## Codes of causes -/

/-- The number of a system condition, null where it was reported without one. -/
def systemNumber (c : Condition) (args : List Value) : Value :=
  match args with
  | number :: _ :: more => if c.hasNumber more.length then number else .null
  | _ => .null

/-- The code of a fault. A reason whose code is empty is told by its label. -/
def codeOf : Fault → Except Fault String
  | .condition .unreachable (.fault reason :: _) => do
    let code ← codeOf reason
    return if code.isEmpty then reason.label else code
  | .condition c args =>
    let number := systemNumber c args
    if number.isNull then .ok c.label else number.display
  | f => .ok f.label

/-- The code of a cause, empty where there is none. -/
def causeCode : Option Fault → Except Fault String
  | none => .ok ""
  | some f => codeOf f

/-! ## Classes of failures -/

/-- What the table says about a status. -/
structure StatusRow where
  status : Nat
  kind : FailureKind
  retryable : Bool
  message : String

/-- The statuses that have a kind of their own. -/
def statusTable : List StatusRow := [
  ⟨401, .auth, false, "Authentication failed"⟩,
  ⟨403, .auth, false, "Authentication failed"⟩,
  ⟨404, .notFound, false, "Resource not found"⟩,
  ⟨400, .validation, false, "Validation error"⟩,
  ⟨429, .rateLimit, true, "Rate limit exceeded"⟩,
  ⟨500, .serverRetryable, true, "Server error"⟩,
  ⟨502, .serverRetryable, true, "Server error"⟩,
  ⟨503, .serverRetryable, true, "Server error"⟩,
  ⟨504, .serverRetryable, true, "Server error"⟩]

/-- Kind, retryability and message of a status. Any value can be looked up but a list or an object,
and numbers are found by value. -/
def statusClass (status : Value) : Except Fault (FailureKind × Bool × String) :=
  match status with
  | .list _ | .dict _ => .error (.misuse .wrongType)
  | status =>
    match statusTable.find? fun row => status.isInt row.status with
    | some row => .ok (row.kind, row.retryable, row.message)
    | none => .ok (.unclassified, false, "Unknown error")

/-- The message of a failure that no reply explains. -/
def networkMessage : String := "Network error: No response from server"

/-- The first text if it is there and not empty, otherwise the second. -/
def firstNonempty (first : Option String) (second : String) : String :=
  match first with
  | some s => if s.isEmpty then second else s
  | none => second

/-- The classified form of a failed attempt. -/
def classifyAttempt (message : String) (status body : Value) (cause : Option Fault) :
    Except Fault Fault := do
  if status.isNull then
    let code ← causeCode cause
    return .classified .network networkMessage .null
      (.dict [("message", .text message), ("code", .text code)]) true
  else
    let said ← bodyMessage body
    let (kind, retryable, default) ← statusClass status
    return .classified kind (firstNonempty (some (firstNonempty said message)) default) status
      (bodyDetails body) retryable

/-- The classified form of a fault: a classified one stays, a failed attempt is classified by its
status, and any other fault is carried along in the details. -/
def classify : Fault → Except Fault Fault
  | .classified kind message status details retryable =>
    .ok (.classified kind message status details retryable)
  | .attempt message status body cause => classifyAttempt message status body cause
  | f => do
    let shown ← f.message
    return .classified .unclassified (firstNonempty (some shown) "Unknown error occurred") .null
      (.dict [("exception", .fault f)]) false

/-- Whether an attempt that failed with a status is made again. -/
def statusRetryable (status : Value) : Except Fault Bool :=
  if status.isNull || status.isInt 429 then .ok true else status.atLeast (.int 500)

def isRetryable : Fault → Except Fault Bool
  | .classified _ _ _ _ retryable => .ok retryable
  | .attempt _ status _ _ => statusRetryable status
  | _ => .ok false

/-- A field that is present only if its value counts as present. -/
def whenTruthy (name : String) (v : Value) : Fields := if v.truthy then [(name, v)] else []

/-- The report of a fault for callers, if it is of a kind that has one. -/
def report? : Fault → Option Fields
  | .classified kind message status details retryable =>
    some (("error", .text message) :: whenTruthy "details" details ++
      [("kind", .text kind.name)] ++ whenTruthy "status" status ++ [("retryable", .bool retryable)])
  | .problem _ message details => some (("error", .text message) :: whenTruthy "details" details)
  | _ => none

end ContentGateway.Failure
