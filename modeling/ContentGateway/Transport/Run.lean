import ContentGateway.Transport.Request

/-!
# Runs against a recorded network

The network is a tape of outcomes, and each request takes the next of them. A job reads from a tape
and leaves a *run*: what it gives or how it fails, the events on the way in order, and the tape that
is left. Jobs are put one behind the other; the events of the first stay in the run when the second
fails.
-/

namespace ContentGateway

/-- What is read of a reply's body: its bytes, or a fault on the way. -/
inductive Reading where
  | bytes (data : List UInt8)
  | fails (f : Fault)

/-- What the network does with a request. -/
inductive Outcome where
  /-- A reply of success. -/
  | success (body : Reading)
  /-- A reply whose status says that the request failed. -/
  | refusal (status : Value) (reason : String) (body : Reading)
  /-- No reply. -/
  | failure (f : Fault)

/-- The outcomes that are still to come. -/
abbrev Tape := List Outcome

/-- How much a notice matters. -/
inductive Level where
  | debug
  | warning
  deriving DecidableEq

def Level.label : Level → String
  | .debug => "DEBUG"
  | .warning => "WARNING"

/-- What can be seen of a run from outside. -/
inductive Event where
  | notice (level : Level) (text : String)
  | sent (request : Request)
  | slept (delay : Value)
  | printed (text : String)
  | complained (text : String)

/-- What became of a job. -/
structure Run (α : Type) where
  result : Except Fault α
  events : List Event
  rest : Tape

/-- What can be done with a tape. -/
def Job (α : Type) : Type := Tape → Run α

namespace Job

variable {α β : Type}

def done (a : α) : Job α := fun tape => ⟨.ok a, [], tape⟩

def fail (f : Fault) : Job α := fun tape => ⟨.error f, [], tape⟩

/-- Gives what a pure step gives. -/
def lift (step : Except Fault α) : Job α := fun tape => ⟨step, [], tape⟩

/-- Shows an event. -/
def emit (e : Event) : Job Unit := fun tape => ⟨.ok (), [e], tape⟩

/-- Goes on with what a job gives. -/
def andThen (first : Job α) (next : α → Job β) : Job β := fun tape =>
  match first tape with
  | ⟨.error f, events, rest⟩ => ⟨.error f, events, rest⟩
  | ⟨.ok a, events, rest⟩ =>
    let later := next a rest
    ⟨later.result, events ++ later.events, later.rest⟩

instance : Monad Job where
  pure := done
  bind := andThen

instance : MonadLift (Except Fault) Job := ⟨lift⟩

/-- Gives how a job ended instead of failing. -/
def attempt (t : Job α) : Job (Except Fault α) := fun tape =>
  let run := t tape
  ⟨.ok run.result, run.events, run.rest⟩

end Job

end ContentGateway
