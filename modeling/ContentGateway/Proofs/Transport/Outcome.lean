import Mathlib
import ContentGateway.Proofs.Value.Display
import ContentGateway.Proofs.Value.Order
import ContentGateway.Transport.Client

/-!
# What becomes of an outcome

An outcome either settles a call or is a failed attempt. Of the failed attempts those are
*transient* whose status lets them be made again: none, 429, or any from 500 on. What a call ends
with when an outcome decides it is the outcome's *verdict*, which no other outcome has a part in.
-/

namespace ContentGateway

/-! ## Statuses -/

/-- Whether a value is the status of a reply, or null where there is no reply. -/
def Value.IsStatus : Value → Prop
  | .null => True
  | .int _ => True
  | _ => False

/-- Whether a failed attempt that a fault holds has a proper status. -/
def Fault.HasStatus : Fault → Prop
  | .attempt _ status _ _ => status.IsStatus
  | _ => True

/-- Whether the fault in a body, if there is one, has a proper status. -/
def Reading.HasStatus : Reading → Prop
  | .bytes _ => True
  | .fails f => f.HasStatus

/-- Whether the statuses in an outcome are whole numbers or absent. -/
def Outcome.HasStatus : Outcome → Prop
  | .success body => body.HasStatus
  | .refusal status _ body => status.IsStatus ∧ body.HasStatus
  | .failure f => f.HasStatus

/-- A reply is asked for again after status 429 and after every status from 500 on. -/
theorem statusRetryable_int (s : ℤ) :
    Failure.statusRetryable (.int s) = .ok (decide (s = 429 ∨ 500 ≤ s)) := by
  have hnull : (Value.int s).isNull = false := rfl
  rw [Failure.statusRetryable, hnull, Bool.false_or, Value.isInt_int, Value.atLeast_int]
  by_cases h : s = 429
  · rw [if_pos (decide_eq_true h), decide_eq_true (.inl h)]
  · rw [if_neg (by simpa using h)]
    simp only [h, false_or]

/-- A proper status says whether an attempt is made again. -/
theorem statusRetryable_ok {status : Value} (h : status.IsStatus) :
    ∃ again, Failure.statusRetryable status = .ok again := by
  cases status with
  | null => exact ⟨true, rfl⟩
  | int s => exact ⟨_, statusRetryable_int s⟩
  | _ => exact h.elim

/-! ## Outcomes as failed attempts -/

/-- A misfit is no failed attempt, whose status would have to be proper. -/
theorem Fault.IsMisfit.hasStatus {f : Fault} (h : f.IsMisfit) : f.HasStatus := by
  cases f with
  | attempt => exact h.elim
  | _ => trivial

/-- The fault of a body of success holds no improper status. -/
theorem bodyValue_hasStatus {data : List UInt8} {f : Fault} (h : Reply.bodyValue data = .error f) :
    f.HasStatus := by
  rw [Reply.bodyValue] at h
  split at h
  · cases h
  split at h
  · cases h
    trivial
  dsimp only at h
  split at h <;> cases h <;> trivial

/-- Nor does that of the body of a refusal. -/
theorem refusalBody_hasStatus {body : Reading} (hbody : body.HasStatus) {f : Fault}
    (h : Reply.refusalBody body = .error f) : f.HasStatus := by
  cases body with
  | fails g =>
    rw [Reply.refusalBody] at h
    split at h
    · cases h
    · cases h
      exact hbody
  | bytes data =>
    rw [Reply.refusalBody] at h
    split at h
    · cases h
    · cases h
    · dsimp only at h
      split at h <;> cases h
      trivial

/-- An attempt that a fault ended has no status, or the one that it was scripted with. -/
theorem attemptFault_hasStatus {timeout : Value} {f g : Fault} (hf : f.HasStatus)
    (h : Reply.failWith (Reply.attemptFault timeout f) = .error g) : g.HasStatus := by
  -- a condition that explains the attempt leaves it without a status, however it is worded
  have hreply : ∀ (wording : String → String) {shown : Except Fault String}, OnlyMisfits shown →
        Reply.failWith (do return Reply.noReply (wording (← shown)) f) = .error g →
          g.HasStatus := by
    intro wording shown hshown h
    cases shown with
    | ok s =>
      cases h
      trivial
    | error e =>
      cases h
      exact (hshown _ rfl).hasStatus
  cases f with
  | condition c args =>
    rw [Reply.attemptFault] at h
    split_ifs at h
    · exact hreply (fun shown => "Connection error: " ++ shown) (Value.display_misfit _) h
    · exact hreply (fun shown => "Request timed out after " ++ shown ++ " seconds")
        (Value.display_misfit _) h
    · exact hreply (fun shown => "Connection error: " ++ shown) (Fault.message_misfit _) h
    · exact hreply (fun shown => "Connection error: " ++ c.label ++ ": " ++ shown)
        (Fault.message_misfit _) h
    · cases h
      trivial
  | _ =>
    cases h
    exact hf

/-- A failed attempt has the status of the reply, or none. -/
theorem interpret_hasStatus {timeout : Value} {o : Outcome} (ho : o.HasStatus) {f : Fault}
    (h : Reply.interpret timeout o = .error f) : f.HasStatus := by
  cases o with
  | success body =>
    cases body with
    | bytes data => exact bodyValue_hasStatus h
    | fails g => exact attemptFault_hasStatus ho h
  | failure g => exact attemptFault_hasStatus ho h
  | refusal status reason body =>
    rw [Reply.interpret, Reply.refusalFault] at h
    cases hmessage : (Fault.refusal status reason).message with
    | error e =>
      rw [hmessage] at h
      cases h
      exact (Fault.message_misfit _ _ hmessage).hasStatus
    | ok message =>
      cases hbody : Reply.refusalBody body with
      | error e =>
        rw [hmessage, hbody] at h
        cases h
        exact refusalBody_hasStatus ho.2 hbody
      | ok v =>
        rw [hmessage, hbody] at h
        cases h
        exact ho.1

/-! ## Transient outcomes and verdicts -/

namespace Outcome

variable (timeout : Value) (o : Outcome)

/-- Whether an outcome is a failed attempt that may be made again. -/
def isTransient : Bool :=
  match Reply.interpret timeout o with
  | .error (.attempt _ status _ _) =>
    match Failure.statusRetryable status with
    | .ok again => again
    | .error _ => false
  | _ => false

/-- The message of the failed attempt that an outcome is, empty if it is none. -/
def message : String :=
  match Reply.interpret timeout o with
  | .error (.attempt message _ _ _) => message
  | _ => ""

/-- What a call ends with when an outcome decides it: what the outcome gives, with a failed attempt
in its classified form. -/
def verdict : Except Fault Value :=
  match Reply.interpret timeout o with
  | .error (.attempt message status body cause) =>
    Reply.failWith (Failure.classifyAttempt message status body cause)
  | settled => settled

variable {timeout o}

/-- The verdict of a reply of success is what its body gives. -/
theorem verdict_bytes (data : List UInt8) :
    (Outcome.success (.bytes data)).verdict timeout = Reply.bodyValue data := by
  rw [verdict, Reply.interpret, Reply.bodyValue]
  split_ifs
  · rfl
  cases Text.decode data with
  | error f => rfl
  | ok cs =>
    dsimp only
    cases Json.read (String.ofList cs) with
    | ok v => rfl
    | error f => cases f <;> rfl

/-- A transient outcome is a failed attempt, and its verdict is the classified form. -/
theorem verdict_of_transient (h : o.isTransient timeout) :
    ∃ status body cause,
      Reply.interpret timeout o = .error (.attempt (o.message timeout) status body cause) ∧
      Failure.statusRetryable status = .ok true ∧
      o.verdict timeout =
        Reply.failWith (Failure.classifyAttempt (o.message timeout) status body cause) := by
  rw [isTransient] at h
  split at h
  · next message status body cause hinterpret =>
    refine ⟨status, body, cause, ?_, ?_, ?_⟩
    · rw [Outcome.message, hinterpret]
    · split at h
      · next again hagain => rw [hagain, h]
      · cases h
    · rw [verdict, Outcome.message, hinterpret]
  · cases h

end Outcome

end ContentGateway
