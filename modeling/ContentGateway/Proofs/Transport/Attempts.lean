import Mathlib
import ContentGateway.Proofs.Steps
import ContentGateway.Proofs.Transport.Backoff
import ContentGateway.Proofs.Transport.Job
import ContentGateway.Proofs.Transport.Outcome

/-!
# Runs of attempts

A call whose request can be made sends it until an outcome decides. Each transient outcome within
the budget adds the same four events: the notice of the attempt, the request, the numbered warning
and the wait for the doubled delay. The first outcome that is not transient, or that the budget does
not cover, adds the first two and gives its verdict.
-/

namespace ContentGateway

/-! ## What is given of a client and a call -/

/-- A client that can wait, with a budget of retries and a base delay. -/
structure Client.HasPolicy (client : Client) (budget : ℤ) (base : Number) : Prop where
  waiting : client.waiting = .pause
  retries : client.settings.retries = .int budget
  retryDelay : client.settings.retryDelay = base.toValue

/-- A client with a budget and a base delay retries by them. -/
theorem Client.HasPolicy.policy_eq {client : Client} {budget : ℤ} {base : Number}
    (h : client.HasPolicy budget base) : client.settings.policy = ⟨.int budget, base.toValue⟩ := by
  rw [Settings.policy, h.retries, h.retryDelay]

/-- Whether every delay before a retry of a budget is in the finite range. -/
def Number.InRange (base : Number) (budget : ℤ) : Prop :=
  ∀ i : ℕ, (i : ℤ) < budget →
    ∃ q, base.toRat? = some q ∧ |q * 2 ^ i| < (Binary64.overflow : ℚ)

/-- The heading and the request of a call, which are settled before anything is sent. -/
def Client.prepare (client : Client) (call : Call) : Except Fault (Client.Heading × Request) := do
  let address ← client.base.build call.path call.parameters
  let headers ← Request.mergedHeaders client.settings call.headers
  let body ← Request.bodyFor call.data
  let request ← Request.assemble client.settings call.method address headers body
  return (⟨call.method, address⟩, request)

/-- A call can be made exactly if its address, its headers and its body can be settled and the
address has a scheme. -/
theorem Client.prepare_eq_ok {client : Client} {call : Call} {h : Client.Heading}
    {request : Request} : client.prepare call = .ok (h, request) ↔
      ∃ address headers body full, client.base.build call.path call.parameters = .ok address ∧
        Request.mergedHeaders client.settings call.headers = .ok headers ∧
        Request.bodyFor call.data = .ok body ∧ Request.target address = .ok full ∧
        h = ⟨call.method, address⟩ ∧
        request = ⟨Request.methodFor call.method body, full, body,
          Request.sorted (Request.spelled headers), client.settings.timeout⟩ := by
  rw [Client.prepare]
  constructor
  · intro hprepare
    obtain ⟨address, haddress, hprepare⟩ := bind_eq_ok.mp hprepare
    obtain ⟨headers, hheaders, hprepare⟩ := bind_eq_ok.mp hprepare
    obtain ⟨body, hbody, hprepare⟩ := bind_eq_ok.mp hprepare
    obtain ⟨sent, hassemble, hprepare⟩ := bind_eq_ok.mp hprepare
    obtain ⟨full, htarget, hassemble⟩ := bind_eq_ok.mp hassemble
    cases hassemble
    cases hprepare
    exact ⟨address, headers, body, full, haddress, hheaders, hbody, htarget, rfl, rfl⟩
  · rintro ⟨address, headers, body, full, haddress, hheaders, hbody, htarget, rfl, rfl⟩
    simp only [haddress, hheaders, hbody, Request.assemble, htarget, bind, Except.bind]
    rfl

/-- A call whose request can be made is a run of attempts. -/
theorem Client.perform_of_prepare {client : Client} {call : Call} {h : Client.Heading}
    {request : Request} (hprepare : client.prepare call = .ok (h, request)) :
    client.perform call = client.attempts h request 0 := by
  obtain ⟨address, headers, body, full, haddress, hheaders, hbody, htarget, rfl, rfl⟩ :=
    Client.prepare_eq_ok.mp hprepare
  rw [Client.perform]
  simp only [haddress, hheaders, hbody, Job.ok_bind]
  unfold Client.send
  simp only [Request.assemble, htarget]
  rfl

/-- Every request waits for its reply as long as the settings say. -/
theorem Client.timeout_of_prepare {client : Client} {call : Call} {h : Client.Heading}
    {request : Request} (hprepare : client.prepare call = .ok (h, request)) :
    request.timeout = client.settings.timeout := by
  obtain ⟨_, _, _, _, -, -, -, -, -, rfl⟩ := Client.prepare_eq_ok.mp hprepare
  rfl

/-- Whether a retry can be announced and made when so many were made before. -/
structure CanRetry (budget : ℤ) (base : Number) (n : ℕ) : Prop where
  covered : (n : ℤ) < budget
  shown : budget.natAbs < 10 ^ Decimal.digitLimit
  inRange : ¬ base.Outgrows n

/-- With a base in range of a small budget, every retry within the budget can be made. -/
theorem Number.InRange.canRetry {base : Number} {budget : ℤ} (h : base.InRange budget)
    (hbudget : budget ≤ 1024) {n : ℕ} (hn : (n : ℤ) < budget) : CanRetry budget base n where
  covered := hn
  shown := by
    have hshort : budget.natAbs < 10 ^ 4 := by omega
    exact hshort.trans_le (Nat.pow_le_pow_right (by norm_num) (by decide))
  inRange := by
    obtain ⟨q, hq, hrange⟩ := h n hn
    exact Number.not_outgrows_of_lt hq (by omega) hrange

/-- A base of one is in range of every budget up to 1024. -/
theorem Number.inRange_one {budget : ℤ} (hbudget : budget ≤ 1024) :
    (Number.int 1).InRange budget := by
  intro i hi
  refine ⟨1, by rw [Number.toRat?, Int.cast_one], ?_⟩
  have hpow := (Number.two_pow_lt_overflow_iff i).mpr (by omega)
  rw [one_mul, abs_of_pos (by positivity)]
  exact_mod_cast hpow

/-! ## One outcome -/

/-- The warning before the retry of a number. -/
def Client.Heading.warning (h : Client.Heading) (message : String) (number : ℕ) (budget : ℤ)
    (delay : Number) : Event :=
  .notice .warning (h.method ++ " " ++ h.address ++ " failed (" ++ message ++ "), retry " ++
    toString number ++ "/" ++ Decimal.intText budget ++ " in " ++ delay.nearest.fixed 2 ++ "s")

section Outcomes

variable {client : Client} {budget : ℤ} {base : Number} (h : Client.Heading) (timeout : Value)
  (n : ℕ) {o : Outcome}

/-- Whether the policy still allows a retry depends on the budget first, then on the fault. -/
theorem allows_eq (hclient : client.HasPolicy budget base) (f : Fault) :
    client.settings.policy.allows (.int (n + 1 : ℕ)) f =
      if (n : ℤ) < budget then Failure.isRetryable f else .ok false := by
  have hatMost : (Value.int (n + 1 : ℕ)).atMost client.settings.policy.retries =
      .ok (decide ((n : ℤ) < budget)) := by
    rw [hclient.policy_eq, Value.atMost_int]
    simp only [Nat.cast_add, Nat.cast_one, Int.add_one_le_iff]
  rw [RetryPolicy.allows, hatMost]
  by_cases hn : (n : ℤ) < budget
  · simp only [hn, decide_true, if_true, bind, Except.bind]
  · simp only [hn, decide_false, if_false, bind, Except.bind, pure, Except.pure]
    rfl

/-- An outcome that is not transient, or comes when the budget is spent, decides the call. -/
theorem afterOutcome_decided (hclient : client.HasPolicy budget base)
    (ho : (o.isTransient timeout = false ∧ o.HasStatus) ∨ budget ≤ n) :
    client.afterOutcome h n timeout o = .over [] (o.verdict timeout) := by
  rw [Client.afterOutcome, Outcome.verdict]
  cases hinterpret : Reply.interpret timeout o with
  | ok v => rfl
  | error f =>
    -- only a failed attempt is put to the policy
    cases f with
    | attempt message status body cause =>
      have hrefused : client.settings.policy.allows (.int (n + 1 : ℕ))
          (.attempt message status body cause) = .ok false := by
        rw [allows_eq n hclient]
        split
        · next hn =>
          obtain ⟨hsettled, hstatus⟩ := ho.resolve_right (not_le.mpr hn)
          obtain ⟨again, hagain⟩ :=
            statusRetryable_ok (interpret_hasStatus hstatus hinterpret)
          rw [Outcome.isTransient, hinterpret] at hsettled
          simp only [hagain] at hsettled
          rw [Failure.isRetryable, hagain, hsettled]
        · rfl
      simp only [Client.attemptMessage?, Client.beforeRetry, hrefused, bind, Except.bind]
      cases hclassify : Failure.classifyAttempt message status body cause with
      | ok g => rw [Failure.classify, hclassify]; rfl
      | error g => rw [Failure.classify, hclassify]; rfl
    | _ => rfl

/-- A transient outcome within the budget is a failed attempt that the policy lets be made again. -/
theorem allows_of_transient (hclient : client.HasPolicy budget base)
    (ho : o.isTransient timeout) (hn : (n : ℤ) < budget) :
    ∃ status body cause,
      Reply.interpret timeout o = .error (.attempt (o.message timeout) status body cause) ∧
      client.settings.policy.allows (.int (n + 1 : ℕ))
        (.attempt (o.message timeout) status body cause) = .ok true := by
  obtain ⟨status, body, cause, hinterpret, hstatus, -⟩ := Outcome.verdict_of_transient ho
  refine ⟨status, body, cause, hinterpret, ?_⟩
  rw [allows_eq n hclient, if_pos hn, Failure.isRetryable, hstatus]

/-- What a transient outcome leads to if its retry can be made: its warning and the wait for the
doubled delay. -/
theorem afterOutcome_again (hclient : client.HasPolicy budget base)
    (ho : o.isTransient timeout) (hn : CanRetry budget base n) :
    client.afterOutcome h n timeout o =
      .again [h.warning (o.message timeout) (n + 1) budget (base.doubled n),
        .slept (base.doubled n).toValue] := by
  obtain ⟨status, body, cause, hinterpret, hallowed⟩ :=
    allows_of_transient timeout n hclient ho hn.covered
  have hdelay : client.settings.policy.delay (.int (n + 1 : ℕ)) =
      .ok (base.doubled n).toValue := by
    rw [RetryPolicy.delay, hclient.policy_eq]
    exact retryDelay_eq base n hn.inRange
  have hwarning : h.retry (o.message timeout) (n + 1) client.settings.policy.retries
      (base.doubled n).toValue =
        .ok (h.warning (o.message timeout) (n + 1) budget (base.doubled n)) := by
    have hwhole : (Value.int budget).wholePart = .ok (Decimal.intText budget) :=
      Value.wholeText_ok hn.shown
    rw [Client.Heading.retry, hclient.policy_eq, hwhole,
      twoPlaces_doubled base n hn.inRange]
    rfl
  simp only [Client.afterOutcome, hinterpret, Client.attemptMessage?, Client.beforeRetry, hallowed,
    hdelay, hwarning, bind, Except.bind, if_true, pure, Except.pure, Client.afterWarning,
    hclient.waiting]

/-- A warning whose budget or delay cannot be shown fails by a misfit. -/
theorem retry_misfit (message : String) (number : ℕ) {delay : Value}
    (hfail : ¬ budget.natAbs < 10 ^ Decimal.digitLimit ∨
      delay.twoPlaces = .error (.misuse .tooLarge)) :
    ∃ f : Fault, f.IsMisfit ∧ h.retry message number (.int budget) delay = .error f := by
  have hbudget : (Value.int budget).wholePart = Value.wholeText budget := rfl
  rw [Client.Heading.retry, hbudget]
  cases hwhole : Value.wholeText budget with
  | error f => exact ⟨f, onlyMisfits_wholeText budget f hwhole, rfl⟩
  | ok shown =>
    have hshown : budget.natAbs < 10 ^ Decimal.digitLimit := by
      rw [← intText?_isSome_iff]
      rw [Value.wholeText] at hwhole
      cases htext : Decimal.intText? budget with
      | some s => rfl
      | none =>
        rw [htext] at hwhole
        cases hwhole
    rw [hfail.resolve_left (not_not.mpr hshown)]
    exact ⟨.misuse .tooLarge, trivial, rfl⟩

/-- A transient outcome whose retry the budget covers but that cannot be made ends the call by a
misfit. -/
theorem afterOutcome_misfit (hclient : client.HasPolicy budget base) (ho : o.isTransient timeout)
    (hcovered : (n : ℤ) < budget) (hn : ¬ CanRetry budget base n) :
    ∃ f : Fault, f.IsMisfit ∧ client.afterOutcome h n timeout o = .over [] (.error f) := by
  obtain ⟨status, body, cause, hinterpret, hallowed⟩ :=
    allows_of_transient timeout n hclient ho hcovered
  have hpolicy := hclient.policy_eq
  -- either the delay cannot be computed, or its warning cannot be written
  have hdelay : (∃ delay, retryDelay (.int (n + 1)) base.toValue = .ok delay ∧
      (¬ budget.natAbs < 10 ^ Decimal.digitLimit ∨
        delay.twoPlaces = .error (.misuse .tooLarge))) ∨
      retryDelay (.int (n + 1)) base.toValue = .error (.misuse .tooLarge) := by
    by_cases houtgrows : base.Outgrows n
    · rcases no_retry_of_outgrows base n houtgrows with h | ⟨delay, hdelay, hplaces⟩
      · exact .inr h
      · exact .inl ⟨delay, hdelay, .inr hplaces⟩
    · refine .inl ⟨_, retryDelay_eq base n houtgrows, .inl fun hshown => ?_⟩
      exact hn ⟨hcovered, hshown, houtgrows⟩
  rw [hpolicy, Nat.cast_add, Nat.cast_one] at hallowed
  rcases hdelay with ⟨delay, hdelay, hfail⟩ | hdelay
  · obtain ⟨f, hmisfit, hretry⟩ := retry_misfit h (o.message timeout) (n + 1) hfail
    refine ⟨f, hmisfit, ?_⟩
    simp only [Client.afterOutcome, hinterpret, Client.attemptMessage?, Client.beforeRetry, hpolicy,
      hallowed, RetryPolicy.delay, Nat.cast_add, Nat.cast_one, hdelay, hretry, bind, Except.bind,
      if_true]
  · refine ⟨.misuse .tooLarge, trivial, ?_⟩
    simp only [Client.afterOutcome, hinterpret, Client.attemptMessage?, Client.beforeRetry, hpolicy,
      hallowed, RetryPolicy.delay, Nat.cast_add, Nat.cast_one, hdelay, bind, Except.bind, if_true]

end Outcomes

/-! ## A run of outcomes -/

section Runs

variable {client : Client} {budget : ℤ} {base : Number} (h : Client.Heading) (request : Request)

/-- What is seen of an attempt and of the retry behind it, when so many were made before. -/
def retryRound (budget : ℤ) (base : Number) (round : Outcome × ℕ) : List Event :=
  [h.attempt, .sent request,
    h.warning (round.1.message request.timeout) (round.2 + 1) budget (base.doubled round.2),
    .slept (base.doubled round.2).toValue]

def retryRounds (budget : ℤ) (base : Number) (n : ℕ) (os : List Outcome) : List Event :=
  (os.zipIdx n).flatMap (retryRound h request budget base)

/-- The rounds of retries are seen one after the other. -/
theorem retryRounds_cons (n : ℕ) (o : Outcome) (os : List Outcome) :
    retryRounds h request budget base n (o :: os) =
      retryRound h request budget base (o, n) ++ retryRounds h request budget base (n + 1) os := by
  rw [retryRounds, List.zipIdx_cons, List.flatMap_cons]
  rfl

/-- Every round sends the request once. -/
theorem requests_retryRounds (n : ℕ) (os : List Outcome) :
    (retryRounds h request budget base n os).filterMap Event.request? =
      List.replicate os.length request := by
  induction os generalizing n with
  | nil => rfl
  | cons o os ih =>
    rw [retryRounds_cons, List.filterMap_append, ih, List.length_cons, List.replicate_succ]
    rfl

/-- The rounds wait for the doubled delays in order. -/
theorem delays_retryRounds (n : ℕ) (os : List Outcome) :
    (retryRounds h request budget base n os).filterMap Event.delay? =
      (List.range' n os.length).map fun i => (base.doubled i).toValue := by
  induction os generalizing n with
  | nil => rfl
  | cons o os ih =>
    rw [retryRounds_cons, List.filterMap_append, ih, List.length_cons, List.range'_succ,
      List.map_cons]
    rfl

/-- A stretch of transient outcomes whose retries can be made moves the run on by its rounds. -/
theorem attempts_transient (hclient : client.HasPolicy budget base) {os : List Outcome}
    (hos : ∀ o ∈ os, o.isTransient request.timeout) {n : ℕ}
    (hn : ∀ i < os.length, CanRetry budget base (n + i)) (tape : Tape) :
    client.attempts h request n (os ++ tape) =
      (client.attempts h request (n + os.length) tape).behind
        (retryRounds h request budget base n os) := by
  induction os generalizing n with
  | nil => rfl
  | cons o os ih =>
    rw [List.length_cons] at hn
    have hstep := afterOutcome_again h request.timeout n hclient (hos o List.mem_cons_self)
      (hn 0 (by omega))
    have hlater := ih (fun a ha => hos a (List.mem_cons_of_mem o ha)) (n := n + 1) fun i hi => by
      rw [Nat.add_right_comm]
      exact hn (i + 1) (by omega)
    have hcount : n + (os.length + 1) = n + 1 + os.length := by omega
    rw [List.cons_append, Client.attempts, hstep]
    dsimp only
    rw [hlater, retryRounds_cons, List.length_cons, hcount]
    rfl

/-- An outcome behind which a call is over ends the run. -/
theorem attempts_over {o : Outcome} {n : ℕ} {result : Except Fault Value}
    (ho : client.afterOutcome h n request.timeout o = .over [] result) (tape : Tape) :
    client.attempts h request n (o :: tape) = ⟨result, [h.attempt, .sent request], tape⟩ := by
  rw [Client.attempts, ho]

end Runs

/-! ## A whole call -/

/-- The number of retries that a tape and a budget lead to: one for each outcome before the first
that is not transient, as far as the budget goes. -/
def retriesMade (timeout : Value) (budget : ℤ) (tape : Tape) : ℕ :=
  min (tape.findIdx fun o => !o.isTransient timeout) budget.toNat

section Split

variable {timeout : Value} {budget : ℤ} {tape : Tape}

/-- Every outcome that is retried is transient. -/
theorem transient_of_mem_take {k : ℕ} (hk : k ≤ retriesMade timeout budget tape) {o : Outcome}
    (ho : o ∈ tape.take k) : o.isTransient timeout := by
  obtain ⟨i, hi, rfl⟩ := List.mem_take_iff_getElem.mp ho
  have hfirst : i < tape.findIdx fun o => !o.isTransient timeout := by
    rw [retriesMade] at hk
    omega
  simpa using List.not_of_lt_findIdx hfirst

/-- The outcome behind the retried ones is not transient, unless the budget is spent. -/
theorem decides_of_lt (htape : retriesMade timeout budget tape < tape.length) :
    tape[retriesMade timeout budget tape].isTransient timeout = false ∨
      budget ≤ retriesMade timeout budget tape := by
  -- the retries stop at the first outcome that is not transient or at the end of the budget
  have hchoice : retriesMade timeout budget tape = tape.findIdx (fun o => !o.isTransient timeout) ∨
      retriesMade timeout budget tape = budget.toNat := min_choice _ _
  rcases hchoice with h | h
  · left
    simp only [h] at htape ⊢
    simpa using List.findIdx_getElem (w := htape)
  · right
    rw [h]
    exact Int.self_le_toNat budget

end Split

section Call

variable {client : Client} {budget : ℤ} {base : Number} {call : Call} {h : Client.Heading}
  {request : Request} {tape : Tape} {k : ℕ}

/-- The retries that a call makes are covered by the budget. -/
theorem covered_of_lt {timeout : Value} (hk : k = retriesMade timeout budget tape) {i : ℕ}
    (hi : i < k) : (i : ℤ) < budget := by
  rw [hk, retriesMade] at hi
  omega

/-- A call that can make its retries runs through them and ends with the verdict of the outcome that
decides, which is the only one whose status matters. -/
theorem perform_decided (hclient : client.HasPolicy budget base)
    (hprepare : client.prepare call = .ok (h, request))
    (hk : k = retriesMade request.timeout budget tape) (htape : k < tape.length)
    (hstatus : tape[k].HasStatus) (hretry : ∀ i < k, CanRetry budget base i) :
    client.perform call tape =
      Run.behind (retryRounds h request budget base 0 (tape.take k))
        ⟨tape[k].verdict request.timeout, [h.attempt, .sent request], tape.drop (k + 1)⟩ := by
  have hlength : (tape.take k).length = k := List.length_take_of_le htape.le
  have hdecides : (tape[k].isTransient request.timeout = false ∧ tape[k].HasStatus) ∨
      budget ≤ k := by
    subst hk
    exact (decides_of_lt htape).imp (fun h => ⟨h, hstatus⟩) id
  rw [Client.perform_of_prepare hprepare]
  conv_lhs => rw [← List.take_append_drop k tape, List.drop_eq_getElem_cons htape]
  rw [attempts_transient h request hclient, hlength, Nat.zero_add,
    attempts_over h request (afterOutcome_decided h request.timeout k hclient hdecides)]
  · intro o ho
    exact transient_of_mem_take hk.le ho
  · intro i hi
    rw [Nat.zero_add]
    exact hretry i (hlength ▸ hi)

/-- `perform_decided` on a tape of proper statuses. -/
theorem perform_eq (hclient : client.HasPolicy budget base)
    (hprepare : client.prepare call = .ok (h, request)) (hstatus : ∀ o ∈ tape, o.HasStatus)
    (hk : k = retriesMade request.timeout budget tape) (htape : k < tape.length)
    (hretry : ∀ i < k, CanRetry budget base i) :
    client.perform call tape =
      Run.behind (retryRounds h request budget base 0 (tape.take k))
        ⟨tape[k].verdict request.timeout, [h.attempt, .sent request], tape.drop (k + 1)⟩ :=
  perform_decided hclient hprepare hk htape (hstatus _ (List.getElem_mem htape)) hretry

/-- A call with a retry that cannot be made ends by a misfit. -/
theorem perform_misfit (hclient : client.HasPolicy budget base)
    (hprepare : client.prepare call = .ok (h, request))
    (hk : k = retriesMade request.timeout budget tape) (htape : k < tape.length)
    (hretry : ¬ ∀ i < k, CanRetry budget base i) :
    ∃ f : Fault, f.IsMisfit ∧ (client.perform call tape).result = .error f := by
  -- the run reaches the first retry that cannot be made
  have hsome : ∃ n, n < k ∧ ¬ CanRetry budget base n := by
    by_contra hnone
    exact hretry fun i hi => not_not.mp fun hcannot => hnone ⟨i, hi, hcannot⟩
  classical
  obtain ⟨hn, hcannot⟩ := Nat.find_spec hsome
  have hbefore : ∀ i < Nat.find hsome, CanRetry budget base i := fun i hi =>
    not_not.mp fun h => Nat.find_min hsome hi ⟨hi.trans hn, h⟩
  generalize Nat.find hsome = n at *
  have hlength : (tape.take n).length = n := List.length_take_of_le (hn.trans htape).le
  have htransient : ∀ m ≤ k, ∀ o ∈ tape.take m, o.isTransient request.timeout := fun m hm o ho =>
    transient_of_mem_take (hm.trans hk.le) ho
  have hlast : tape[n] ∈ tape.take (n + 1) :=
    List.mem_take_iff_getElem.mpr ⟨n, by omega, rfl⟩
  obtain ⟨f, hmisfit, hover⟩ := afterOutcome_misfit h request.timeout n hclient
    (htransient (n + 1) hn _ hlast) (covered_of_lt hk hn) hcannot
  refine ⟨f, hmisfit, ?_⟩
  rw [Client.perform_of_prepare hprepare, ← List.take_append_drop n tape,
    List.drop_eq_getElem_cons (hn.trans htape), attempts_transient h request hclient, hlength,
    Nat.zero_add, attempts_over h request hover]
  · rfl
  · exact htransient n hn.le
  · intro i hi
    rw [Nat.zero_add]
    exact hbefore i (hlength ▸ hi)

/-- The whole run of a call. With `k` transient outcomes ahead of the one that decides, the call
takes `k + 1` outcomes and sends its request as often, waits for the base delay doubled `0` to
`k - 1` times, and gives the verdict of the outcome that decides. -/
theorem perform_run (hclient : client.HasPolicy budget base) (hbudget : budget ≤ 1024)
    (hrange : base.InRange budget) (hprepare : client.prepare call = .ok (h, request))
    (hstatus : ∀ o ∈ tape, o.HasStatus) (hk : k = retriesMade request.timeout budget tape)
    (htape : k < tape.length) :
    (client.perform call tape).result = tape[k].verdict request.timeout ∧
    (client.perform call tape).rest = tape.drop (k + 1) ∧
    (client.perform call tape).requests = List.replicate (k + 1) request ∧
    (client.perform call tape).delays = (List.range k).map (fun i => (base.doubled i).toValue) ∧
    (∀ i < k, (base.doubled i).toRat? = base.toRat?.map (· * 2 ^ i)) ∧
    (client.perform call tape).events =
      retryRounds h request budget base 0 (tape.take k) ++ [h.attempt, .sent request] := by
  have hlength : (tape.take k).length = k := List.length_take_of_le htape.le
  rw [perform_eq hclient hprepare hstatus hk htape fun i hi =>
    hrange.canRetry hbudget (covered_of_lt hk hi)]
  refine ⟨rfl, rfl, ?_, ?_, ?_, rfl⟩
  · rw [Run.requests, Run.behind, List.filterMap_append, requests_retryRounds, hlength,
      List.replicate_succ']
    rfl
  · rw [Run.delays, Run.behind, List.filterMap_append, delays_retryRounds, hlength,
      List.range_eq_range']
    exact List.append_nil _
  · intro i hi
    obtain ⟨q, hq, hsmall⟩ := hrange i (covered_of_lt hk hi)
    rw [hq, Option.map_some]
    exact Number.toRat?_doubled hq (hsmall.trans_le Binary64.overflow_le)

end Call

/-! ## A run on a short tape -/

def Client.ofLocal (budget : ℤ) (base : Number) : Client where
  settings := { Settings.standard (.text "http://local") with
    retries := .int budget, retryDelay := base.toValue }
  base := ⟨"http://local"⟩
  waiting := .pause

theorem Client.ofLocal_hasPolicy (budget : ℤ) (base : Number) :
    (Client.ofLocal budget base).HasPolicy budget base :=
  ⟨rfl, rfl, rfl⟩

/-- The request by which a client of the local gateway reads a resource. -/
def Request.ofLocal : Request where
  method := "GET"
  address := "http://local/x"
  body := none
  headers := Request.sorted (Request.spelled Request.defaultHeaders)
  timeout := .int 30

/-- The call that reads the resource can be made. -/
theorem Client.prepare_ofLocal (budget : ℤ) (base : Number) :
    (Client.ofLocal budget base).prepare (.plain "GET" "/x") =
      .ok (⟨"GET", "http://local/x"⟩, Request.ofLocal) := by
  have haddress : (Client.ofLocal budget base).base.build "/x" [] = .ok "http://local/x" := rfl
  have hheaders : Request.mergedHeaders (Client.ofLocal budget base).settings [] =
      .ok Request.defaultHeaders := rfl
  have hbody : Request.bodyFor .null = .ok none := rfl
  have htarget : Request.target "http://local/x" = .ok "http://local/x" := rfl
  exact Client.prepare_eq_ok.mpr ⟨_, _, _, _, haddress, hheaders, hbody, htarget, rfl, rfl⟩

/-- After a timeout and a busy gateway, the third attempt gives its value. -/
theorem perform_run_two_retries :
    let run := (Client.ofLocal 2 (.int 1)).perform (.plain "GET" "/x")
      [.failure (.condition .timedOut []), .refusal (.int 503) "Busy" (.bytes []),
        .success (.bytes [0x5b, 0x5d])]
    run.result = .ok (.list []) ∧ run.requests = List.replicate 3 Request.ofLocal ∧
      run.delays = [.int 1, .int 2] := by
  have hstatus : ∀ o ∈ ([.failure (.condition .timedOut []), .refusal (.int 503) "Busy" (.bytes []),
      .success (.bytes [0x5b, 0x5d])] : Tape), o.HasStatus := by
    simp [Outcome.HasStatus, Fault.HasStatus, Value.IsStatus, Reading.HasStatus]
  obtain ⟨hresult, -, hrequests, hdelays, -⟩ :=
    perform_run (k := 2) (Client.ofLocal_hasPolicy 2 (.int 1)) (by norm_num)
      (Number.inRange_one (by norm_num)) (Client.prepare_ofLocal 2 (.int 1)) hstatus rfl
      (by decide)
  exact ⟨hresult, hrequests, hdelays⟩

end ContentGateway
