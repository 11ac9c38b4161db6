import Mathlib
import ContentGateway.Transport.Run

/-!
# Jobs one behind the other

Where a job is made of several, its run is put together from theirs: the events of the first come
ahead of those of the next, which starts on the tape that the first left. A pure step in between
leaves no trace.
-/

namespace ContentGateway

/-! ## What is seen of a run -/

def Event.request? : Event → Option Request
  | .sent request => some request
  | _ => none

def Event.delay? : Event → Option Value
  | .slept delay => some delay
  | _ => none

namespace Run

variable {α : Type} (run : Run α)

def requests : List Request := run.events.filterMap Event.request?

def delays : List Value := run.events.filterMap Event.delay?

end Run

/-- A run that comes behind some events. -/
def Run.behind {α : Type} (events : List Event) (run : Run α) : Run α :=
  { run with events := events ++ run.events }

/-- The requests of a run behind some events come behind theirs. -/
theorem Run.requests_behind {α : Type} (events : List Event) (run : Run α) :
    (run.behind events).requests = events.filterMap Event.request? ++ run.requests := by
  rw [requests, behind, List.filterMap_append]
  rfl

/-! ## Putting runs together -/

namespace Job

variable {α β : Type} {first : Job α} {next : α → Job β} {tape rest : Tape} {events : List Event}

/-- A pure step that succeeds leaves no trace in a job. -/
theorem ok_bind (a : α) (next : α → Job β) :
    (liftM (Except.ok a : Except Fault α) : Job α) >>= next = next a := by
  funext tape
  rfl

/-- A pure step that fails ends a job without a trace. -/
theorem error_bind (f : Fault) (next : α → Job β) :
    (liftM (Except.error f : Except Fault α) : Job α) >>= next = fail f := by
  funext tape
  rfl

/-- Behind a job that gives a value, the next one runs on the tape that is left. -/
theorem bind_of_ok {a : α} (h : first tape = ⟨.ok a, events, rest⟩) :
    (first >>= next) tape = (next a rest).behind events := by
  show andThen first next tape = _
  rw [andThen, h]
  rfl

/-- Behind a job that fails, nothing more is done. -/
theorem bind_of_error {f : Fault} (h : first tape = ⟨.error f, events, rest⟩) :
    (first >>= next) tape = ⟨.error f, events, rest⟩ := by
  show andThen first next tape = _
  rw [andThen, h]

/-- What a job shows stays at the beginning when others follow. -/
theorem bind_events (first : Job α) (next : α → Job β) (tape : Tape) :
    ∃ later, ((first >>= next) tape).events = (first tape).events ++ later := by
  show ∃ later, (andThen first next tape).events = _
  rw [andThen]
  rcases first tape with ⟨result, events, rest⟩
  cases result with
  | error f => exact ⟨[], (List.append_nil _).symm⟩
  | ok a => exact ⟨_, rfl⟩

/-- Jobs that take nothing leave what the one ahead of them left. -/
theorem rest_bind (hnext : ∀ a tape, (next a tape).rest = tape) (first : Job α) (tape : Tape) :
    ((first >>= next) tape).rest = (first tape).rest := by
  rcases hrun : first tape with ⟨result, events, rest⟩
  cases result with
  | error f => rw [bind_of_error hrun]
  | ok a => rw [bind_of_ok hrun, Run.behind, hnext]

/-- Jobs that send nothing add no request to those ahead of them. -/
theorem requests_bind (hnext : ∀ a tape, (next a tape).requests = []) (first : Job α)
    (tape : Tape) : ((first >>= next) tape).requests = (first tape).requests := by
  rcases hrun : first tape with ⟨result, events, rest⟩
  cases result with
  | error f =>
    rw [bind_of_error hrun]
    rfl
  | ok a =>
    rw [bind_of_ok hrun, Run.requests_behind, hnext, List.append_nil]
    rfl

/-- An attempt gives how a job ended. -/
theorem attempt_eq {result : Except Fault α} (h : first tape = ⟨result, events, rest⟩) :
    first.attempt tape = ⟨.ok result, events, rest⟩ := by
  rw [attempt, h]

theorem lift_eq (step : Except Fault α) (tape : Tape) :
    (liftM step : Job α) tape = ⟨step, [], tape⟩ := rfl

theorem pure_eq (a : α) (tape : Tape) : (pure a : Job α) tape = ⟨.ok a, [], tape⟩ := rfl

/-- A pure step behind a job leaves no trace of its own. -/
theorem bind_lift (first : Job α) (step : α → Except Fault β) (tape : Tape) :
    (first >>= fun a => liftM (step a)) tape =
      ⟨(first tape).result.bind step, (first tape).events, (first tape).rest⟩ := by
  rcases hrun : first tape with ⟨result, events, rest⟩
  cases result with
  | error f => exact bind_of_error hrun
  | ok a =>
    rw [bind_of_ok hrun]
    simp only [lift_eq, Run.behind, List.append_nil]
    rfl

/-- A pure step behind a job that gives a value decides what the two give. -/
theorem bind_lift_of_ok {a : α} (h : first tape = ⟨.ok a, events, rest⟩)
    (step : α → Except Fault β) :
    (first >>= fun a => liftM (step a)) tape = ⟨step a, events, rest⟩ := by
  rw [bind_lift, h]
  rfl

end Job

end ContentGateway
