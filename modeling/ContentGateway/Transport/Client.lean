import ContentGateway.Address
import ContentGateway.Transport.Reply

/-!
# Clients

A client sends the request of a call, and sends it again while the attempt fails, the policy allows
another one, and outcomes are left. Every attempt sends the very same request and is announced by a
notice. A retry is announced by a warning, with its number, the budget and the delay, and then waits
for the delay. The first outcome that is not tried again decides: its value, its own fault, or the
classified form of the failed attempt.

A call is settled before anything is sent: its address, its headers and its body. An address without
a scheme is found only after the notice.

A client is started from the environment and from options that win over it. The options may also say
how to wait; a value cannot, so a client that is given one fails at its first wait, behind the
warning.
-/

namespace ContentGateway

/-- How a client waits for a delay. -/
inductive Waiting where
  /-- It waits as long as the delay says. -/
  | pause
  /-- It was given something that cannot wait. -/
  | impossible
  deriving DecidableEq

/-- Settings, the base of the addresses, and how to wait. -/
structure Client where
  settings : Settings
  base : Base
  waiting : Waiting

namespace Client

/-- The client with some settings that waits in some way. -/
def withWaiting (waiting : Waiting) (settings : Settings) : Except Fault Client := do
  return ⟨settings, ← Base.ofValue settings.baseAddress, waiting⟩

/-- The client with some settings. -/
def ofSettings (settings : Settings) : Except Fault Client := withWaiting .pause settings

/-- The options of a client that override settings. -/
def settingOptions : List String := ["api_base_url", "timeout", "retries", "retry_delay"]

/-- The options of a client: whole settings, single ones, and how to wait. -/
def optionNames : List String := "config" :: settingOptions ++ ["sleep"]

/-- How to wait by an option: a value that counts as absent leaves it at the pause. -/
def waitingBy (option : Value) : Waiting := if option.truthy then .impossible else .pause

/-- The client that an environment and options give. Whole settings win over the environment, but no
value holds settings. -/
def start (env : Environment) (options : Fields) : Except Fault Client := do
  if options.any fun option => !optionNames.contains option.1 then throw (.misuse .wrongType)
  if !(Fields.get options "config").isNull then throw (.misuse .noSuchMember)
  let overrides := options.filter fun option => settingOptions.contains option.1
  withWaiting (waitingBy (Fields.get options "sleep")) (← Settings.ofEnvironment env overrides)

/-- What notices call an attempt by: its method and its address, as they were asked for. -/
structure Heading where
  method : String
  address : String

def Heading.attempt (h : Heading) : Event := .notice .debug (h.method ++ " " ++ h.address)

def Heading.retry (h : Heading) (message : String) (number : Nat) (budget delay : Value) :
    Except Fault Event := do
  let budget ← budget.wholePart
  let delay ← delay.twoPlaces
  return .notice .warning (h.method ++ " " ++ h.address ++ " failed (" ++ message ++ "), retry " ++
    toString number ++ "/" ++ budget ++ " in " ++ delay ++ "s")

/-- The warning before the retry of a number and the delay, if the policy allows the retry;
otherwise the fault that ends the call. -/
def beforeRetry (policy : RetryPolicy) (h : Heading) (number : Nat) (message : String) (f : Fault) :
    Except Fault (Event × Value) := do
  if ← policy.allows (.int number) f then
    let delay ← policy.delay (.int number)
    return (← h.retry message number policy.retries delay, delay)
  else throw (← Failure.classify f)

/-- The message of a failed attempt. -/
def attemptMessage? : Fault → Option String
  | .attempt message _ _ _ => some message
  | _ => none

/-- What follows an outcome. -/
inductive Next where
  /-- Behind some events, the call is over. -/
  | over (events : List Event) (result : Except Fault Value)
  /-- Events lead to another attempt. -/
  | again (events : List Event)

/-- What follows the warning of a retry: a wait and another attempt, unless waiting is impossible.
-/
def afterWarning (waiting : Waiting) (warning : Event) (delay : Value) : Next :=
  match waiting with
  | .pause => .again [warning, .slept delay]
  | .impossible => .over [warning] (.error (.misuse .wrongType))

/-- What follows an outcome when so many retries were made before. -/
def afterOutcome (client : Client) (h : Heading) (retries : Nat) (timeout : Value)
    (outcome : Outcome) : Next :=
  match Reply.interpret timeout outcome with
  | .ok v => .over [] (.ok v)
  | .error f =>
    match attemptMessage? f with
    | none => .over [] (.error f)
    | some message =>
      match beforeRetry client.settings.policy h (retries + 1) message f with
      | .ok (warning, delay) => afterWarning client.waiting warning delay
      | .error g => .over [] (.error g)

/-- Sends a request, and again until an outcome decides, when so many retries were made before. -/
def attempts (client : Client) (h : Heading) (request : Request) : (retries : Nat) → Job Value
  | _, [] => ⟨.error .tapeExhausted, [h.attempt, .sent request], []⟩
  | retries, outcome :: tape =>
    match client.afterOutcome h retries request.timeout outcome with
    | .over events result => ⟨result, h.attempt :: .sent request :: events, tape⟩
    | .again events =>
      let later := attempts client h request (retries + 1) tape
      ⟨later.result, h.attempt :: .sent request :: events ++ later.events, later.rest⟩

/-- Sends a request to a settled address. -/
def send (client : Client) (method address : String) (headers : Fields) (body : Option String) :
    Job Value := do
  let h : Heading := ⟨method, address⟩
  match Request.assemble client.settings method address headers body with
  | .ok request => client.attempts h request 0
  | .error f => do
    Job.emit h.attempt
    Job.fail f

def perform (client : Client) (call : Call) : Job Value := do
  let address ← client.base.build call.path call.parameters
  let headers ← Request.mergedHeaders client.settings call.headers
  let body ← Request.bodyFor call.data
  client.send call.method address headers body

/-! ## Methods -/

def get (client : Client) (path : String) (parameters : Fields) : Job Value :=
  client.perform { Call.plain "GET" path with parameters }

def post (client : Client) (path : String) (data : Value) (parameters : Fields) : Job Value :=
  client.perform { Call.plain "POST" path with data, parameters }

def put (client : Client) (path : String) (data : Value) (headers : Fields) : Job Value :=
  client.perform { Call.plain "PUT" path with data, headers }

def patch (client : Client) (path : String) (data : Value) (headers : Fields) : Job Value :=
  client.perform { Call.plain "PATCH" path with data, headers }

def delete (client : Client) (path : String) (parameters : Fields) : Job Value :=
  client.perform { Call.plain "DELETE" path with parameters }

end Client

end ContentGateway
