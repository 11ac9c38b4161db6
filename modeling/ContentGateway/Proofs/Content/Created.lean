import Mathlib
import ContentGateway.Proofs.Content.Replies
import ContentGateway.Proofs.Transport.Copies

/-!
# What one call creates

The gateway cannot tell a request that is sent again from a new one. On each that it receives it
creates an item or not, and whatever becomes of its answer is all that the client sees of it. So a
call to create leaves one item more at most than were created on the requests that the client took
for failed and sent again, and no more items than the budget allows requests.

Where every answer is lost behind its item, each of these bounds is reached.
-/

namespace ContentGateway

/-- What a gateway does with a request to create: whether it creates an item, and what becomes of
its answer. -/
structure Handling where
  creates : Bool
  outcome : Outcome

/-- The items that a gateway creates. -/
def created (handlings : List Handling) : ℕ := handlings.countP Handling.creates

/-- No more items are created than requests are handled. -/
theorem created_le_length (handlings : List Handling) : created handlings ≤ handlings.length :=
  List.countP_le_length

/-- One handling more creates one item more at most. -/
theorem created_take_succ (handlings : List Handling) (m : ℕ) :
    created (handlings.take (m + 1)) ≤ created (handlings.take m) + 1 := by
  have hlast : created (handlings[m]?).toList ≤ 1 :=
    (created_le_length _).trans (by cases handlings[m]? <;> simp)
  rw [List.take_add_one, created, List.countP_append]
  exact Nat.add_le_add_left hlast _

namespace Client

variable {client : Client} {schema : String} {data : Value} {options : CreateOptions}

/-- A call to create is a request by `POST`. -/
theorem create_call (schema : String) (data : Value) (options : CreateOptions) :
    ∃ call, Operation.call schema (.create data options) = .ok call ∧ call.method = "POST" := by
  rw [Operation.call, Path.collection_text]
  exact ⟨_, rfl, rfl⟩

/-- Creating shows what its call shows. -/
theorem create_requests {call : Call}
    (hcall : Operation.call schema (.create data options) = .ok call) (tape : Tape) :
    (client.create (.text schema) data options tape).requests =
      (client.perform call tape).requests := by
  obtain ⟨path, hpath, hcall⟩ := bind_eq_ok.mp hcall
  cases hcall
  rw [create, hpath, Job.ok_bind]
  exact congrArg Run.requests (Job.bind_lift _ Content.ofReply tape)

/-- A call to create sends one request, some times over: again only behind an outcome that the
client took for a transient failure, and only while the budget lasts. The gateway that handles the
requests holds one item more at most than it created on those that were sent again, so no more than
one where it created nothing on them, and never more items than the budget allows requests. -/
theorem create_bounded {budget : ℤ} (hretries : client.settings.retries = .int budget)
    (schema : String) (data : Value) (options : CreateOptions) (handlings : List Handling) :
    let run := client.create (.text schema) data options (handlings.map Handling.outcome)
    let received := handlings.take run.requests.length
    let resent := handlings.take (run.requests.length - 1)
    (∀ request ∈ run.requests,
      request.method = "POST" ∧ ∀ other ∈ run.requests, other = request) ∧
    (∀ handling ∈ resent, handling.outcome.isTransient client.settings.timeout) ∧
    created received ≤ created resent + 1 ∧ created received ≤ run.requests.length ∧
    run.requests.length ≤ budget.toNat + 1 := by
  dsimp only
  obtain ⟨call, hcall, hmethod⟩ := create_call schema data options
  rw [create_requests hcall]
  cases hprepare : client.prepare call with
  | error f =>
    obtain ⟨-, -, hnone, -⟩ := perform_of_prepare_error hprepare (handlings.map Handling.outcome)
    rw [hnone]
    simp [created]
  | ok prepared =>
    obtain ⟨h, request⟩ := prepared
    obtain ⟨m, hrequests, hbudget, htransient⟩ := attempts_resent h request hretries 0
      (handlings.map Handling.outcome)
    rw [perform_of_prepare hprepare, hrequests, List.length_replicate, Nat.add_sub_cancel]
    rw [timeout_of_prepare hprepare, ← List.map_take, List.forall_mem_map] at htransient
    refine ⟨?_, htransient, created_take_succ handlings m, ?_, by omega⟩
    · intro sent hsent
      rw [List.eq_of_mem_replicate hsent]
      exact ⟨(method_of_prepare hprepare (by simp [hmethod])).trans hmethod,
        fun other hother => List.eq_of_mem_replicate hother⟩
    · exact (created_le_length _).trans (List.length_take_le _ _)

def contentReply : Outcome :=
  .success (.bytes [0x7b, 0x22, 0x69, 0x64, 0x22, 0x3a, 0x31, 0x7d])

theorem contentReply_holds : contentReply.Holds (.dict [("id", .int 1)]) := by
  refine ⟨_, rfl, ?_⟩
  have hdecode : Text.decode [0x7b, 0x22, 0x69, 0x64, 0x22, 0x3a, 0x31, 0x7d] =
      .ok ['\x7b', '"', 'i', 'd', '"', ':', '1', '\x7d'] := rfl
  rw [Reply.bodyValue, if_neg (by decide), hdecode]
  dsimp only
  rw [Json.read, String.toList_ofList]
  rfl

/-- A gateway that creates nothing while it is busy is left with one item at most, by two requests
at most. -/
theorem create_bounded_busy :
    let handlings := [Handling.mk false (.refusal (.int 503) "Busy" (.bytes [])),
      ⟨true, contentReply⟩]
    let run := (ofLocal 1 (.int 1)).create (.text "s") (.dict []) CreateOptions.standard
      (handlings.map Handling.outcome)
    run.requests.length ≤ 2 ∧ created (handlings.take run.requests.length) ≤ 1 := by
  have hretries : (ofLocal 1 (.int 1)).settings.retries = .int 1 := rfl
  obtain ⟨-, -, hcreated, -, hlength⟩ := create_bounded hretries "s" (.dict [])
    CreateOptions.standard [⟨false, .refusal (.int 503) "Busy" (.bytes [])⟩, ⟨true, contentReply⟩]
  dsimp only at hcreated hlength ⊢
  generalize ((ofLocal 1 (.int 1)).create _ _ _ _).requests.length = n at hcreated hlength ⊢
  refine ⟨hlength, hcreated.trans ?_⟩
  have hn : n ≤ 2 := hlength
  interval_cases n <;> decide

/-- An item whose answer is lost is created a second time, and only the second one is told of. -/
theorem create_twice :
    let handlings := [Handling.mk true (.failure (.condition .timedOut [])), ⟨true, contentReply⟩]
    let run := (ofLocal 1 (.int 1)).create (.text "s") (.dict []) CreateOptions.standard
      (handlings.map Handling.outcome)
    run.result = .ok (some (.ofFields (.int 1) [("id", .int 1)])) ∧
      ¬ created (handlings.take run.requests.length) ≤ 1 := by
  obtain ⟨call, hcall, h, request, hprepare⟩ : ∃ call, Operation.call "s"
      (.create (.dict []) CreateOptions.standard) = .ok call ∧ ∃ h request,
        (ofLocal 1 (.int 1)).prepare call = .ok (h, request) := ⟨_, rfl, _, _, rfl⟩
  have hlost : ∀ o ∈ [Outcome.failure (.condition .timedOut [])],
      o.isTransient (ofLocal 1 (.int 1)).settings.timeout := List.forall_mem_singleton.mpr rfl
  obtain ⟨data, hdata, hbody⟩ := contentReply_holds
  have hanswer : Reply.interpret (ofLocal 1 (.int 1)).settings.timeout contentReply =
      .ok (.dict [("id", .int 1)]) := by rw [hdata, Reply.interpret, hbody]
  obtain ⟨events, hperform, hrequests⟩ := perform_served (ofLocal_hasPolicy 1 (.int 1))
    (by norm_num) (Number.inRange_one (by norm_num)) hprepare hlost le_rfl hanswer []
  have hcreate : (ofLocal 1 (.int 1)).create (.text "s") (.dict []) CreateOptions.standard
      [.failure (.condition .timedOut []), contentReply] =
        ⟨.ok (some (.ofFields (.int 1) [("id", .int 1)])), events, []⟩ :=
    Operation.run_of_perform hcall hperform
  simp only [List.map_cons, List.map_nil, hcreate, Run.requests, hrequests, List.length_replicate]
  exact ⟨trivial, by decide⟩

/-- Where every answer is lost behind its item, the call is sent as often as the budget allows, and
leaves an item each time. -/
theorem create_lost {budget : ℤ} {base : Number} (hclient : client.HasPolicy budget base)
    (hbudget : budget ≤ 1024) (hrange : base.InRange budget) {call : Call}
    (hcall : Operation.call schema (.create data options) = .ok call) {h : Heading}
    {request : Request} (hprepare : client.prepare call = .ok (h, request)) {lost : Outcome}
    (hlost : lost.isTransient client.settings.timeout) :
    let handlings := List.replicate (budget.toNat + 1) (Handling.mk true lost)
    let run := client.create (.text schema) data options (handlings.map Handling.outcome)
    run.requests.length = budget.toNat + 1 ∧
      created (handlings.take run.requests.length) = budget.toNat + 1 := by
  have htransient : ∀ o ∈ List.replicate budget.toNat lost, o.isTransient request.timeout := by
    intro o ho
    rw [List.eq_of_mem_replicate ho, timeout_of_prepare hprepare]
    exact hlost
  have hretry : ∀ i < (List.replicate budget.toNat lost).length, CanRetry budget base (0 + i) := by
    intro i hi
    rw [List.length_replicate] at hi
    exact hrange.canRetry hbudget (by omega)
  have hover := afterOutcome_decided h request.timeout budget.toNat hclient
    (o := lost) (.inr (Int.self_le_toNat budget))
  have hlength : (client.create (.text schema) data options
      (List.replicate (budget.toNat + 1) lost)).requests.length = budget.toNat + 1 := by
    rw [create_requests hcall, perform_of_prepare hprepare, List.replicate_succ',
      attempts_transient h request hclient htransient hretry, List.length_replicate, Nat.zero_add,
      attempts_over h request hover, Run.requests_behind, requests_retryRounds, List.length_append,
      List.length_replicate, List.length_replicate]
    rfl
  dsimp only
  rw [List.map_replicate, hlength, List.take_of_length_le (List.length_replicate ..).le]
  exact ⟨rfl, by simp [created, List.countP_replicate]⟩

end Client

end ContentGateway
