import Mathlib
import ContentGateway.Proofs.Transport.Prepare

/-!
# What a call sends

Between two attempts a client shows a notice and waits, and no more. So whatever comes of its
attempts, a call sends copies of the one request that is settled ahead of them, and it gives a value
only by an outcome that it takes off the tape. What makes it send another copy is the last outcome
and the budget; neither the method nor what the gateway has done has a part in it.
-/

namespace ContentGateway

/-- Whether an event is a notice or a wait. -/
def Event.IsAside : Event → Prop
  | .notice .. | .slept _ => True
  | _ => False

/-- An aside sends nothing. -/
theorem Event.IsAside.request? {e : Event} (h : e.IsAside) : e.request? = none := by
  cases e with
  | sent => exact h.elim
  | _ => rfl

/-- Asides send nothing. -/
theorem requests_of_asides {events : List Event} (h : ∀ e ∈ events, e.IsAside) :
    events.filterMap Event.request? = [] :=
  List.filterMap_eq_nil_iff.mpr fun e he => (h e he).request?

namespace Client

/-- An attempt and the asides behind it send the request once. -/
theorem requests_attempt (h : Heading) (request : Request) {events : List Event}
    (hevents : ∀ e ∈ events, e.IsAside) :
    (h.attempt :: .sent request :: events).filterMap Event.request? = [request] :=
  congrArg (request :: ·) (requests_of_asides hevents)

variable (client : Client) (h : Heading) (request : Request)

/-- What comes before another attempt or the end is asides. -/
def Next.Aside : Next → Prop
  | .over events _ => ∀ e ∈ events, e.IsAside
  | .again events => ∀ e ∈ events, e.IsAside

/-- What follows an outcome is a warning and a wait at most. -/
theorem afterOutcome_aside (retries : ℕ) (timeout : Value) (outcome : Outcome) :
    (client.afterOutcome h retries timeout outcome).Aside := by
  have hnone : ∀ e ∈ ([] : List Event), e.IsAside := List.forall_mem_nil _
  rw [afterOutcome]
  cases Reply.interpret timeout outcome with
  | ok v => exact hnone
  | error f =>
    dsimp only
    cases attemptMessage? f with
    | none => exact hnone
    | some message =>
      dsimp only
      cases hbefore : beforeRetry client.settings.policy h (retries + 1) message f with
      | error g => exact hnone
      | ok warned =>
        obtain ⟨warning, delay⟩ := warned
        have hwarning : warning.IsAside := by
          obtain ⟨allowed, -, hwarned⟩ := bind_eq_ok.mp hbefore
          split at hwarned
          · obtain ⟨d, -, hwarned⟩ := bind_eq_ok.mp hwarned
            obtain ⟨e, he, hwarned⟩ := bind_eq_ok.mp hwarned
            cases hwarned
            obtain ⟨budget, -, he⟩ := bind_eq_ok.mp he
            obtain ⟨shown, -, he⟩ := bind_eq_ok.mp he
            cases he
            trivial
          · obtain ⟨g, -, hwarned⟩ := bind_eq_ok.mp hwarned
            cases hwarned
        dsimp only
        cases client.waiting with
        | pause => exact List.forall_mem_cons.mpr ⟨hwarning, List.forall_mem_singleton.mpr trivial⟩
        | impossible => exact List.forall_mem_singleton.mpr hwarning

/-- Attempts send copies of their request. By induction on the tape; each outcome adds a copy. -/
theorem attempts_copies (retries : ℕ) (tape : Tape) :
    ∃ m, (client.attempts h request retries tape).requests = List.replicate (m + 1) request := by
  induction tape generalizing retries with
  | nil => exact ⟨0, rfl⟩
  | cons outcome tape ih =>
    have hafter := client.afterOutcome_aside h retries request.timeout outcome
    rw [attempts]
    rcases hnext : client.afterOutcome h retries request.timeout outcome with
      ⟨events, result⟩ | events
    · rw [hnext] at hafter
      exact ⟨0, requests_attempt h request hafter⟩
    · rw [hnext] at hafter
      obtain ⟨m, hlater⟩ := ih (retries + 1)
      refine ⟨m + 1, ?_⟩
      rw [Run.requests, List.filterMap_append, requests_attempt h request hafter]
      exact congrArg _ hlater

/-- Attempts that give a value take an outcome. -/
theorem attempts_ok_length {retries : ℕ} {tape : Tape} {v : Value}
    (hv : (client.attempts h request retries tape).result = .ok v) :
    (client.attempts h request retries tape).rest.length < tape.length := by
  induction tape generalizing retries with
  | nil => cases hv
  | cons outcome tape ih =>
    rw [attempts] at hv ⊢
    rw [List.length_cons]
    split
    · exact Nat.lt_succ_self _
    · next events hnext =>
      simp only [hnext] at hv
      exact (ih hv).trans (Nat.lt_succ_self _)

variable {call : Call} {tape : Tape}

/-- A call sends its request some times over, at least once if it can be made. -/
theorem perform_copies (hprepare : client.prepare call = .ok (h, request)) (tape : Tape) :
    ∃ m, (client.perform call tape).requests = List.replicate (m + 1) request := by
  rw [perform_of_prepare hprepare]
  exact client.attempts_copies h request 0 tape

/-- A call that gives a value can be made, and takes an outcome. -/
theorem perform_ok_length {v : Value} (hv : (client.perform call tape).result = .ok v) :
    (∃ h request, client.prepare call = .ok (h, request)) ∧
      (client.perform call tape).rest.length < tape.length := by
  cases hprepare : client.prepare call with
  | error f =>
    obtain ⟨-, hf, -, -⟩ := perform_of_prepare_error hprepare tape
    rw [hf] at hv
    cases hv
  | ok prepared =>
    obtain ⟨h, request⟩ := prepared
    refine ⟨⟨h, request, rfl⟩, ?_⟩
    rw [perform_of_prepare hprepare] at hv ⊢
    exact client.attempts_ok_length h request hv

variable {client} {budget : ℤ} {h : Heading} {request : Request}

/-- Whatever a call sends is the request that was settled for it. -/
theorem prepare_of_sent {tape : Tape} (hsent : request ∈ (client.perform call tape).requests) :
    ∃ h, client.prepare call = .ok (h, request) := by
  cases hprepare : client.prepare call with
  | error f =>
    obtain ⟨-, -, hnone, -⟩ := perform_of_prepare_error hprepare tape
    rw [hnone] at hsent
    exact absurd hsent List.not_mem_nil
  | ok prepared =>
    obtain ⟨h, settled⟩ := prepared
    obtain ⟨m, hcopies⟩ := perform_copies client h settled hprepare tape
    rw [hcopies] at hsent
    exact ⟨h, by rw [List.eq_of_mem_replicate hsent]⟩

/-! ## How often -/

/-- Another attempt is made only while the budget lasts, and only behind a transient outcome. -/
theorem covered_of_again (hretries : client.settings.retries = .int budget) {n : ℕ}
    {timeout : Value} {o : Outcome} {events : List Event}
    (hagain : client.afterOutcome h n timeout o = .again events) :
    (n : ℤ) < budget ∧ o.isTransient timeout := by
  rw [afterOutcome] at hagain
  rw [Outcome.isTransient]
  cases hinterpret : Reply.interpret timeout o with
  | ok v =>
    rw [hinterpret] at hagain
    cases hagain
  | error f =>
    rw [hinterpret] at hagain
    dsimp only at hagain
    -- only a failed attempt is put to the policy
    cases f with
    | attempt message status body cause =>
      simp only [attemptMessage?] at hagain
      cases hbefore : beforeRetry client.settings.policy h (n + 1) message
          (.attempt message status body cause) with
      | error g =>
        rw [hbefore] at hagain
        cases hagain
      | ok warned =>
        obtain ⟨allowed, hallowed, hwarned⟩ := bind_eq_ok.mp hbefore
        have hallows : allowed = true := by
          by_contra hrefused
          rw [if_neg hrefused] at hwarned
          obtain ⟨g, -, hwarned⟩ := bind_eq_ok.mp hwarned
          cases hwarned
        subst hallows
        rw [RetryPolicy.allows, Settings.policy, hretries, Value.atMost_int] at hallowed
        obtain ⟨covered, hcovered, hallowed⟩ := bind_eq_ok.mp hallowed
        cases hcovered
        split at hallowed
        · next hcovered =>
          refine ⟨by have := of_decide_eq_true hcovered; omega, ?_⟩
          rw [Failure.isRetryable] at hallowed
          simp only [hallowed]
        · cases hallowed
    | _ => cases hagain

/-- Attempts send one request more than retries. Each retry comes behind a transient outcome, and
there are as many at most as the budget has left. By induction on the tape. -/
theorem attempts_resent (h : Heading) (request : Request)
    (hretries : client.settings.retries = .int budget) (n : ℕ) (tape : Tape) :
    ∃ m, (client.attempts h request n tape).requests = List.replicate (m + 1) request ∧
      (m = 0 ∨ ((n + m : ℕ) : ℤ) ≤ budget) ∧
      ∀ o ∈ tape.take m, o.isTransient request.timeout := by
  induction tape generalizing n with
  | nil => exact ⟨0, rfl, .inl rfl, fun o ho => absurd ho List.not_mem_nil⟩
  | cons o tape ih =>
    have hafter := client.afterOutcome_aside h n request.timeout o
    rw [attempts]
    rcases hnext : client.afterOutcome h n request.timeout o with ⟨events, result⟩ | events
    · rw [hnext] at hafter
      exact ⟨0, requests_attempt h request hafter, .inl rfl, fun o ho => absurd ho List.not_mem_nil⟩
    · rw [hnext] at hafter
      obtain ⟨hcovered, htransient⟩ := covered_of_again hretries hnext
      obtain ⟨m, hlater, hbudget, hmore⟩ := ih (n + 1)
      refine ⟨m + 1, ?_, .inr ?_, ?_⟩
      · rw [Run.requests, List.filterMap_append, requests_attempt h request hafter]
        exact congrArg _ hlater
      · rcases hbudget with rfl | hbudget <;> push_cast at * <;> omega
      · rw [List.take_succ_cons]
        exact List.forall_mem_cons.mpr ⟨htransient, hmore⟩

/-- The request of a call has its method. -/
theorem method_of_prepare (hprepare : client.prepare call = .ok (h, request))
    (hmethod : call.method ≠ "") : request.method = call.method := by
  obtain ⟨_, _, _, _, -, -, -, -, -, rfl⟩ := prepare_eq_ok.mp hprepare
  exact if_neg (by simpa using hmethod)

end Client

end ContentGateway
