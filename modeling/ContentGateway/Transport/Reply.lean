import ContentGateway.Json.Reader
import ContentGateway.Text.Utf8
import ContentGateway.Transport.Run

/-!
# What an outcome means

A reply of success gives the value of its JSON body, null if the body is empty. A body that is not
UTF-8 or not JSON is a classified failure at once, which no retry could mend.

Every other outcome that the network or the system explains is a failed attempt: a refusal with the
status and the body of its reply, and a condition of the system or of the protocol without any. A
fault of another sort is passed on as it is.

The body of a refusal is taken as far as it can be read: as JSON, otherwise as text, and null where
even that fails.
-/

namespace ContentGateway.Reply

/-- The value in the body of a success. -/
def bodyValue (data : List UInt8) : Except Fault Value :=
  if data.isEmpty then .ok .null
  else
    match Text.decode data with
    | .error f =>
      .error (.classified .unclassified ("Response is not valid UTF-8: " ++ f.message) .null
        (.dict [("body", .bytes data)]) false)
    | .ok cs =>
      let text := String.ofList cs
      match Json.read text with
      | .ok v => .ok v
      | .error (.flawed f) =>
        .error (.classified .unclassified ("Invalid JSON response: " ++ f.message) .null
          (.dict [("body", .text text)]) false)
      | .error (.digitLimit digits) => .error (.digitLimit (some digits))

/-- Whether a fault in reading the body of a refusal leaves the body unknown and nothing more. -/
def isReadLoss : Fault → Bool
  | .condition c _ => c.isSystem
  | _ => false

/-- The value in the body of a refusal. -/
def refusalBody : Reading → Except Fault Value
  | .fails f => if isReadLoss f then .ok .null else .error f
  | .bytes data =>
    match Text.decode data with
    | .error _ => .ok .null
    | .ok [] => .ok .null
    | .ok cs =>
      let text := String.ofList cs
      match Json.read text with
      | .ok v => .ok v
      | .error (.flawed _) => .ok (.text text)
      | .error (.digitLimit digits) => .error (.digitLimit (some digits))

/-- A failed attempt without a reply. -/
def noReply (message : String) (cause : Fault) : Fault :=
  .attempt message .null .null (some cause)

/-- The fault of an attempt that a fault ended. -/
def attemptFault (timeout : Value) (f : Fault) : Except Fault Fault :=
  match f with
  | .condition c args =>
    if c = .unreachable then do
      return noReply ("Connection error: " ++ (← (args.headD .null).display)) f
    else if c = .timedOut then do
      return noReply ("Request timed out after " ++ (← timeout.display) ++ " seconds") f
    else if c.isSystem then do
      return noReply ("Connection error: " ++ (← f.message)) f
    else if c.isProtocol then do
      return noReply ("Connection error: " ++ c.label ++ ": " ++ (← f.message)) f
    else .ok f
  | f => .ok f

def refusalFault (status : Value) (reason : String) (body : Reading) : Except Fault Fault := do
  let cause := Fault.refusal status reason
  let message ← cause.message
  return .attempt message status (← refusalBody body) (some cause)

/-- Ends with the fault that a step gives, or with the one that ends the step itself. -/
def failWith (step : Except Fault Fault) : Except Fault Value :=
  match step with
  | .ok f => .error f
  | .error f => .error f

/-- What an outcome gives. -/
def interpret (timeout : Value) : Outcome → Except Fault Value
  | .success (.bytes data) => bodyValue data
  | .success (.fails f) => failWith (attemptFault timeout f)
  | .refusal status reason body => failWith (refusalFault status reason body)
  | .failure f => failWith (attemptFault timeout f)

end ContentGateway.Reply
