import Mathlib
import ContentGateway.Proofs.Transport.Escape
import ContentGateway.Proofs.Transport.Prepare

/-!
# Retryable failures

Two rules speak of retries. The transport makes an attempt again after no reply, after status 429
and after every status from 500 on; a failure is reported as retryable by a table of single
statuses. The table is the narrower one, so what it calls retryable was tried as often as the budget
allows. A call that gives up before that met a body that cannot be used, or a status that neither
rule retries.
-/

namespace ContentGateway

/-! ## One outcome -/

section Verdict

variable {timeout : Value} {o : Outcome}

/-- An outcome of a network that gives no value is a body of a success, fails by a foreign fault, or
is a failed attempt, without a reply or with the status of a refusal. -/
theorem interpret_error (ho : o.IsNetwork) {f : Fault} (h : Reply.interpret timeout o = .error f) :
    (∃ data, o = .success (.bytes data)) ∨ f.IsForeign ∨
      ∃ message status body cause, f = .attempt message status body cause ∧
        (status = .null ∨
          ∃ s reason reading, o = .refusal (.int s) reason reading ∧ status = .int s) := by
  -- what a condition of the network ends has no status
  have hattempt : ∀ g : Fault, g.IsNetwork →
      Reply.failWith (Reply.attemptFault timeout g) = .error f →
        f.IsForeign ∨ ∃ message, f = .attempt message .null .null (some g) := by
    intro g hg hf
    obtain ⟨wording, heq⟩ := attemptFault_eq timeout hg
    rw [heq] at hf
    cases htelling : g.telling timeout with
    | ok said =>
      rw [htelling] at hf
      cases hf
      exact .inr ⟨_, rfl⟩
    | error e =>
      rw [htelling] at hf
      cases hf
      exact .inl (telling_misfit timeout g _ htelling).isForeign
  cases o with
  | success reading =>
    cases reading with
    | bytes data => exact .inl ⟨data, rfl⟩
    | fails g =>
      refine .inr ((hattempt g ho h).imp_right ?_)
      rintro ⟨message, rfl⟩
      exact ⟨message, .null, .null, some g, rfl, .inl rfl⟩
  | failure g =>
    refine .inr ((hattempt g ho h).imp_right ?_)
    rintro ⟨message, rfl⟩
    exact ⟨message, .null, .null, some g, rfl, .inl rfl⟩
  | refusal status reason reading =>
    obtain ⟨⟨s, rfl⟩, hreading⟩ := ho
    right
    rw [Reply.interpret, Reply.refusalFault] at h
    cases hmessage : (Fault.refusal (.int s) reason).message with
    | error e =>
      rw [hmessage] at h
      cases h
      exact .inl (Fault.message_misfit _ _ hmessage).isForeign
    | ok message =>
      rw [hmessage] at h
      rcases refusalBody_cases hreading with ⟨-, v, hv, -⟩ | ⟨-, e, he, hforeign⟩
      · rw [hv] at h
        cases h
        exact .inr ⟨_, _, _, _, rfl, .inr ⟨s, reason, reading, rfl, rfl⟩⟩
      · rw [he] at h
        cases h
        exact .inl hforeign

/-- A body of a success that gives no value is classified, and not as retryable, unless it fails by
a foreign fault. -/
theorem bodyValue_error {data : List UInt8} {f : Fault}
    (h : Reply.bodyValue data = .error f) :
    f.IsForeign ∨ ∃ said details, f = .classified .unclassified said .null details false := by
  rw [Reply.bodyValue] at h
  split at h
  · cases h
  split at h
  · cases h
    exact .inr ⟨_, _, rfl⟩
  dsimp only at h
  split at h
  · cases h
  · cases h
    exact .inr ⟨_, _, rfl⟩
  · cases h
    exact .inl trivial

/-- A success is no failed attempt. -/
theorem isTransient_bytes (data : List UInt8) :
    (Outcome.success (.bytes data)).isTransient timeout = false := by
  rw [Outcome.isTransient, Reply.interpret]
  split
  · next hbody =>
    rcases bodyValue_error hbody with hforeign | ⟨said, details, h⟩
    · exact hforeign.elim
    · cases h
  · rfl

variable {kind : FailureKind} {said : String} {status details : Value} {retryable : Bool}

/-- A verdict that is a classified failure comes from a body that cannot be used, from an attempt
without a reply, or from a refusal, whose status says whether it was transient and what is
reported. -/
theorem verdict_classified (ho : o.IsNetwork)
    (h : o.verdict timeout = .error (.classified kind said status details retryable)) :
    (o.isTransient timeout = false ∧ retryable = false ∧ ∃ data, o = .success (.bytes data) ∧
        Reply.bodyValue data = .error (.classified kind said status details retryable)) ∨
      (o.isTransient timeout = true ∧ retryable = true ∧ status = .null) ∨
      ∃ s reason reading, o = .refusal (.int s) reason reading ∧ status = .int s ∧
        o.isTransient timeout = decide (s = 429 ∨ 500 ≤ s) ∧
        retryable = decide (s ∈ Failure.retryableStatuses) := by
  cases hinterpret : Reply.interpret timeout o with
  | ok v =>
    rw [Outcome.verdict, hinterpret] at h
    cases h
  | error f =>
    rcases interpret_error ho hinterpret with ⟨data, rfl⟩ | hforeign |
      ⟨message, st, body, cause, rfl, hst⟩
    · rw [Outcome.verdict_bytes] at h
      refine .inl ⟨isTransient_bytes data, ?_, data, rfl, h⟩
      rcases bodyValue_error h with hforeign | ⟨said, details, hf⟩
      · exact hforeign.elim
      · cases hf
        rfl
    · rw [hforeign.verdict_eq hinterpret] at h
      cases h
      exact hforeign.elim
    · have hstatus : st.IsStatus := interpret_hasStatus ho.hasStatus hinterpret
      have htransient : ∀ again, Failure.statusRetryable st = .ok again →
          o.isTransient timeout = again := by
        intro again hagain
        rw [Outcome.isTransient, hinterpret]
        simp only [hagain]
      rw [Outcome.verdict, hinterpret] at h
      dsimp only at h
      cases hclassify : Failure.classifyAttempt message st body cause with
      | error e =>
        rw [hclassify] at h
        cases h
        exact (Failure.classifyAttempt_misfit message st body cause _ hclassify).elim
      | ok g =>
        rw [hclassify] at h
        obtain ⟨kind', said', details', retryable', rfl, hflag⟩ :=
          Failure.classifyAttempt_eq_ok message hstatus hclassify
        cases h
        right
        rcases hst with rfl | ⟨s, reason, reading, rfl, rfl⟩
        · rcases hflag with ⟨-, hflag⟩ | ⟨s, hnull, -⟩
          · exact .inl ⟨htransient true rfl, hflag, rfl⟩
          · cases hnull
        · rcases hflag with ⟨hnull, -⟩ | ⟨s', hs', hflag⟩
          · cases hnull
          · cases hs'
            exact .inr ⟨s, reason, reading, rfl, rfl, htransient _ (statusRetryable_int s), hflag⟩

end Verdict

/-! ## A whole call -/

section Call

variable {client : Client} {budget : ℤ} {base : Number} {call : Call} {tape : Tape}

/-- A call that retries after every outcome of a tape wants another one behind it. -/
theorem perform_exhausted (hclient : client.HasPolicy budget base) (hbudget : budget ≤ 1024)
    (hrange : base.InRange budget) {h : Client.Heading} {request : Request}
    (hprepare : client.prepare call = .ok (h, request))
    (htape : tape.length ≤ retriesMade request.timeout budget tape) :
    (client.perform call tape).result = .error .tapeExhausted := by
  have htransient : ∀ o ∈ tape, o.isTransient request.timeout := fun o ho =>
    transient_of_mem_take htape (by rwa [List.take_length])
  have hretry : ∀ i < tape.length, CanRetry budget base (0 + i) := fun i hi => by
    rw [Nat.zero_add]
    exact hrange.canRetry hbudget (covered_of_lt rfl (hi.trans_le htape))
  have hrun := attempts_transient h request hclient htransient hretry []
  rw [List.append_nil] at hrun
  rw [Client.perform_of_prepare hprepare, hrun]
  rfl

variable {kind : FailureKind} {said : String} {status details : Value} {retryable : Bool}

/-- A call that ends by a classified failure ends at some outcome of its tape. If the failure is
reported as retryable the budget is spent. If the budget is not spent, the outcome was a body that
cannot be used, or a refusal by a status below 500 other than 429. -/
theorem perform_classified (hclient : client.HasPolicy budget base) (hbudget : budget ≤ 1024)
    (hrange : base.InRange budget) (hnetwork : ∀ o ∈ tape, o.IsNetwork)
    (hresult : (client.perform call tape).result =
      .error (.classified kind said status details retryable)) :
    ∃ k o, tape[k]? = some o ∧ (client.perform call tape).requests.length = k + 1 ∧
      k ≤ budget.toNat ∧ (retryable → k = budget.toNat) ∧
      (k < budget.toNat → retryable = false ∧
        ((∃ data, o = .success (.bytes data) ∧
            Reply.bodyValue data = .error (.classified kind said status details retryable)) ∨
          ∃ s reason reading, o = .refusal (.int s) reason reading ∧ status = .int s ∧
            s < 500 ∧ s ≠ 429)) := by
  -- a call that cannot be made, and one that runs off its tape, end otherwise
  cases hprepare : client.prepare call with
  | error f =>
    obtain ⟨hf, hfailed, -⟩ := Client.perform_of_prepare_error hprepare tape
    rw [hfailed] at hresult
    cases hresult
    rcases hf with hmisfit | ⟨address, h⟩
    · exact hmisfit.elim
    · cases h
  | ok prepared =>
  obtain ⟨h, request⟩ := prepared
  rcases Nat.lt_or_ge (retriesMade request.timeout budget tape) tape.length with htape | htape
  swap
  · rw [perform_exhausted hclient hbudget hrange hprepare htape] at hresult
    cases hresult
  have hdecides := decides_of_lt htape
  have hmost : retriesMade request.timeout budget tape ≤ budget.toNat := min_le_right _ _
  obtain ⟨hverdict, -, hrequests, -⟩ := perform_run hclient hbudget hrange hprepare
    (fun o ho => (hnetwork o ho).hasStatus) rfl htape
  generalize retriesMade request.timeout budget tape = k at *
  rw [hverdict] at hresult
  refine ⟨k, tape[k], List.getElem?_eq_getElem htape, by rw [hrequests, List.length_replicate],
    hmost, ?_⟩
  have hspent : ¬ k < budget.toNat ↔ budget ≤ k := by omega
  rcases verdict_classified (hnetwork _ (List.getElem_mem htape)) hresult with
    ⟨-, hflag, hbody⟩ | ⟨htransient, -, -⟩ | ⟨s, reason, reading, ho, hstatus, htransient, hflag⟩
  · exact ⟨fun hretryable => by simp [hflag] at hretryable, fun _ => ⟨hflag, .inl hbody⟩⟩
  · have hk : ¬ k < budget.toNat := hspent.mpr (hdecides.resolve_left (by simp [htransient]))
    exact ⟨fun _ => by omega, fun hlt => absurd hlt hk⟩
  · by_cases hretried : s = 429 ∨ 500 ≤ s
    · have hk : ¬ k < budget.toNat :=
        hspent.mpr (hdecides.resolve_left (by simp [htransient, hretried]))
      exact ⟨fun _ => by omega, fun hlt => absurd hlt hk⟩
    · have hunlisted : retryable = false :=
        hflag.trans (decide_eq_false (mt Failure.retried_of_mem hretried))
      refine ⟨fun hretryable => by simp [hunlisted] at hretryable, fun _ => ⟨hunlisted, .inr ?_⟩⟩
      exact ⟨s, reason, reading, ho, hstatus, by omega, by omega⟩

end Call

/-- The two rules side by side. What a failed attempt is classified as is retryable only if the
transport retries the attempt, and the two differ on the statuses from 500 on that the table does
not hold. So a call that ends by a retryable failure has made all its attempts, and one that ends
earlier by a classified failure has met a body that cannot be used, or a refusal by a status below
500 other than 429, and reports it as not retryable. -/
theorem retryability_consistent :
    (∀ message status body cause, status.IsStatus →
      (body.IsJson → (∃ code, Failure.causeCode cause = .ok code) →
        ∃ g, Failure.classify (.attempt message status body cause) = .ok g) ∧
      ∀ g, Failure.classify (.attempt message status body cause) = .ok g →
        ∃ kind said details retryable again, g = .classified kind said status details retryable ∧
          Failure.isRetryable (.attempt message status body cause) = .ok again ∧
          (retryable → again) ∧
          (retryable ≠ again ↔ ∃ s, status = .int s ∧ 500 ≤ s ∧ s ∉ [500, 502, 503, 504])) ∧
    ∀ (client : Client) (budget : ℤ) (base : Number) (call : Call) (tape : Tape),
      client.HasPolicy budget base → budget ≤ 1024 → base.InRange budget →
      (∀ o ∈ tape, o.IsNetwork) →
      ∀ kind said status details retryable, (client.perform call tape).result =
          .error (.classified kind said status details retryable) →
        ∃ k o, tape[k]? = some o ∧ (client.perform call tape).requests.length = k + 1 ∧
          k ≤ budget.toNat ∧ (retryable → k = budget.toNat) ∧
          (k < budget.toNat → retryable = false ∧
            ((∃ data, o = .success (.bytes data) ∧ Reply.bodyValue data =
                .error (.classified kind said status details retryable)) ∨
              ∃ s reason reading, o = .refusal (.int s) reason reading ∧ status = .int s ∧
                s < 500 ∧ s ≠ 429)) := by
  refine ⟨fun message status body cause hstatus => ⟨fun hbody hcause => ?_, fun g hg => ?_⟩, ?_⟩
  · exact Failure.classifyAttempt_ok message hstatus hbody hcause
  · exact Failure.classify_agrees message hstatus hg
  · intro client budget base call tape hclient hbudget hrange hnetwork kind said status details
      retryable hresult
    exact perform_classified hclient hbudget hrange hnetwork hresult

/-- A gateway that stays busy is asked three times with a budget of two. Status 501 is retried and
still not reported as retryable. -/
theorem retryability_consistent_busy :
    ((Client.ofLocal 2 (.int 1)).perform (.plain "GET" "/x")
      (List.replicate 5 (.refusal (.int 503) "Busy" (.bytes [])))).requests.length = 3 ∧
    ∃ kind said details retryable again,
      Failure.classify (.attempt "Odd" (.int 501) .null none) =
        .ok (.classified kind said (.int 501) details retryable) ∧
      Failure.isRetryable (.attempt "Odd" (.int 501) .null none) = .ok again ∧
      retryable ≠ again := by
  have hnetwork : ∀ o ∈ List.replicate 5 (Outcome.refusal (.int 503) "Busy" (.bytes [])),
      o.IsNetwork := by
    intro o ho
    rw [List.eq_of_mem_replicate ho]
    exact ⟨⟨503, rfl⟩, trivial⟩
  have hresult : ((Client.ofLocal 2 (.int 1)).perform (.plain "GET" "/x")
      (List.replicate 5 (.refusal (.int 503) "Busy" (.bytes [])))).result =
        .error (.classified .serverRetryable "HTTP Error 503: Busy" (.int 503) .null true) := rfl
  constructor
  · obtain ⟨k, o, -, hrequests, -, hspent, -⟩ := retryability_consistent.2 _ 2 (.int 1) _ _
      (Client.ofLocal_hasPolicy 2 (.int 1)) (by norm_num) (Number.inRange_one (by norm_num))
      hnetwork _ _ _ _ _ hresult
    rw [hrequests, hspent rfl]
    rfl
  · obtain ⟨hclassified, hagrees⟩ :=
      retryability_consistent.1 "Odd" (.int 501) .null none trivial
    obtain ⟨g, hg⟩ := hclassified .null ⟨"", rfl⟩
    obtain ⟨kind, said, details, retryable, again, rfl, hagain, -, hdiffer⟩ := hagrees g hg
    exact ⟨kind, said, details, retryable, again, hg, hagain,
      hdiffer.mpr ⟨501, rfl, by norm_num, by decide⟩⟩

end ContentGateway
