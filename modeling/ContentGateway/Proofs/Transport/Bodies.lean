import Mathlib
import ContentGateway.Proofs.Json.Refused
import ContentGateway.Proofs.Transport.Copies

/-!
# What the bodies of requests carry

The body of a call is written before anything is sent, and every attempt sends the same one. So
either all requests of a call carry its data, in a text that reads back as exactly these, or the
data have no text and the call ends at once: nothing is announced, nothing is sent, and no outcome
is taken off the tape. The second happens exactly if raw bytes or a fault are somewhere in the data.
-/

namespace ContentGateway

/-- Whether a request carries data: null by having no body, and other data by a body that reads back
as these. -/
def Request.Carries (request : Request) (data : Value) : Prop :=
  match request.body with
  | none => data = .null
  | some s => data ≠ .null ∧ Json.read s = .ok data

theorem Value.isNull_iff {v : Value} : v.isNull ↔ v = .null := by
  cases v with
  | null => exact iff_of_true rfl rfl
  | _ => exact iff_of_false Bool.false_ne_true Value.noConfusion

namespace Client

variable {client : Client} {call : Call} {h : Heading} {request : Request} {address full : String}

/-- The request of a call carries its data if these are of the kinds of JSON. -/
theorem carries_of_prepare (hdata : call.data.IsDocument)
    (hprepare : client.prepare call = .ok (h, request)) : request.Carries call.data := by
  obtain ⟨_, _, body, _, -, -, hbody, -, -, rfl⟩ := prepare_eq_ok.mp hprepare
  rw [Request.bodyFor] at hbody
  by_cases hnull : call.data.isNull
  · rw [if_pos hnull] at hbody
    cases hbody
    exact Value.isNull_iff.mp hnull
  · rw [if_neg hnull] at hbody
    obtain ⟨s, hwrite, hread⟩ := Json.read_write .oneLine .strict hdata
    rw [hwrite] at hbody
    cases hbody
    have hback := hread "" (by simp)
    rw [String.append_empty] at hback
    exact ⟨fun h => hnull (Value.isNull_iff.mpr h), hback⟩

/-- A call with an address, headers and a body can be made. -/
theorem exists_prepare (haddress : client.base.build call.path call.parameters = .ok address)
    (htarget : Request.target address = .ok full) {configured : Fields}
    (hheaders : client.settings.headers = .dict configured) (hdata : call.data.IsDocument) :
    ∃ h request, client.prepare call = .ok (h, request) := by
  have hmerged : ∃ headers, Request.mergedHeaders client.settings call.headers = .ok headers :=
    ⟨_, by rw [Request.mergedHeaders, hheaders]⟩
  have hbody : ∃ body, Request.bodyFor call.data = .ok body := by
    obtain ⟨s, hwrite, -⟩ := Json.read_write .oneLine .strict hdata
    rw [Request.bodyFor]
    split
    · exact ⟨none, rfl⟩
    · exact ⟨some s, by rw [hwrite]; rfl⟩
  obtain ⟨headers, hmerged⟩ := hmerged
  obtain ⟨body, hbody⟩ := hbody
  exact ⟨_, _, prepare_eq_ok.mpr
    ⟨address, headers, body, full, haddress, hmerged, hbody, htarget, rfl, rfl⟩⟩

/-- A call whose data have bytes or a fault somewhere ends at once and leaves no trace. Its headers
are settled first, and they fail in no other way. -/
theorem perform_foreign (haddress : client.base.build call.path call.parameters = .ok address)
    (hdata : call.data.IsData) (hforeign : call.data.HoldsForeign) (tape : Tape) :
    client.perform call tape = ⟨.error (.misuse .wrongType), [], tape⟩ := by
  have hbody : Request.bodyFor call.data = .error (.misuse .wrongType) := by
    have hnull : ¬ call.data.isNull := by
      rw [Value.isNull_iff]
      intro hnull
      rw [hnull] at hforeign
      cases hforeign
    rw [Request.bodyFor, if_neg hnull, Json.write_strict_foreign .oneLine hdata hforeign]
    rfl
  rw [perform, haddress, Job.ok_bind]
  cases hmerged : Request.mergedHeaders client.settings call.headers with
  | error f =>
    have hf : f = .misuse .wrongType := by
      rw [Request.mergedHeaders.eq_def] at hmerged
      split at hmerged
      · cases hmerged
      · exact (Except.error.inj hmerged).symm
    rw [Job.error_bind, hf]
    rfl
  | ok headers =>
    rw [Job.ok_bind, hbody, Job.error_bind]
    rfl

/-- What becomes of the data of a call whose address is acceptable, on every network. If neither
bytes nor a fault are anywhere in them, each request carries exactly the data, and at least one is
sent unless the headers of the settings are no object. Otherwise the call ends with a value that
does not fit: nothing is seen of it, and the tape is as it was. -/
theorem bodies_faithful (haddress : client.base.build call.path call.parameters = .ok address)
    (htarget : Request.target address = .ok full) (hdata : call.data.IsData) (tape : Tape) :
    (¬ call.data.HoldsForeign →
      (∀ request ∈ (client.perform call tape).requests, request.Carries call.data) ∧
      ∀ configured, client.settings.headers = .dict configured →
        (client.perform call tape).requests ≠ []) ∧
    (call.data.HoldsForeign →
      client.perform call tape = ⟨.error (.misuse .wrongType), [], tape⟩) := by
  refine ⟨fun hplain => ?_, fun hforeign => perform_foreign haddress hdata hforeign tape⟩
  have hdocument := hdata.isDocument hplain
  constructor
  · intro request hrequest
    obtain ⟨h, hprepare⟩ := prepare_of_sent hrequest
    exact carries_of_prepare hdocument hprepare
  · intro configured hheaders
    obtain ⟨h, settled, hprepare⟩ := exists_prepare haddress htarget hheaders hdocument
    obtain ⟨m, hcopies⟩ := client.perform_copies h settled hprepare tape
    rw [hcopies, List.replicate_succ]
    exact List.cons_ne_nil _ _

def nestedData (deep : Value) : Value :=
  .dict [("n", .int 3), ("tags", .list [.text "a", .list [.null, deep]])]

def putNested (deep : Value) : Call := { Call.plain "PUT" "/x" with data := nestedData deep }

theorem nestedData_isData {deep : Value} (h : deep.IsData) : (nestedData deep).IsData := by
  have hn : (3 : ℤ).natAbs < 10 ^ Decimal.digitLimit :=
    (show 3 < 10 ^ 1 by norm_num).trans_le (Nat.pow_le_pow_right (by norm_num) (by decide))
  have hinner : (Value.list [.null, deep]).IsData :=
    .list (List.forall_mem_cons.mpr ⟨.null, List.forall_mem_singleton.mpr h⟩)
  have htags : (Value.list [.text "a", .list [.null, deep]]).IsData :=
    .list (List.forall_mem_cons.mpr ⟨.text "a", List.forall_mem_singleton.mpr hinner⟩)
  exact .dict (by simp)
    (List.forall_mem_cons.mpr ⟨.int hn, List.forall_mem_singleton.mpr htags⟩)

/-- They hold what has no JSON form exactly if it is deep in them. -/
theorem nestedData_holdsForeign {deep : Value} :
    (nestedData deep).HoldsForeign ↔ deep.HoldsForeign := by
  constructor
  · intro h
    cases h with
    | field hfield h =>
      rcases List.mem_pair.mp hfield with rfl | rfl
      · cases h
      · cases h with
        | item hv h =>
          rcases List.mem_pair.mp hv with rfl | rfl
          · cases h
          · cases h with
            | item hv h =>
              rcases List.mem_pair.mp hv with rfl | rfl
              · cases h
              · exact h
  · intro h
    exact .field (List.mem_pair.mpr (.inr rfl)) (.item (List.mem_pair.mpr (.inr rfl))
      (.item (List.mem_pair.mpr (.inr rfl)) h))

/-- A busy gateway is sent the same data twice; with a byte string deep in them it is sent
nothing. -/
theorem bodies_faithful_nested :
    (∀ request ∈ ((ofLocal 1 (.int 1)).perform (putNested (.bool true))
        [.refusal (.int 503) "Busy" (.bytes []), .success (.bytes [])]).requests,
      request.Carries (nestedData (.bool true))) ∧
    ((ofLocal 1 (.int 1)).perform (putNested (.bool true))
      [.refusal (.int 503) "Busy" (.bytes []), .success (.bytes [])]).requests ≠ [] ∧
    (ofLocal 1 (.int 1)).perform (putNested (.bytes [0x61])) [.success (.bytes [])] =
      ⟨.error (.misuse .wrongType), [], [.success (.bytes [])]⟩ := by
  have hbuild : (ofLocal 1 (.int 1)).base.build "/x" [] = .ok "http://local/x" := rfl
  have haddress : ∀ deep, (ofLocal 1 (.int 1)).base.build (putNested deep).path
      (putNested deep).parameters = .ok "http://local/x" := fun _ => hbuild
  have htarget : Request.target "http://local/x" = .ok "http://local/x" := rfl
  have hplain : ¬ (nestedData (.bool true)).HoldsForeign := by
    rw [nestedData_holdsForeign]
    intro h
    cases h
  obtain ⟨hcarried, -⟩ := bodies_faithful (haddress (.bool true)) htarget
    (nestedData_isData (.bool true))
    [.refusal (.int 503) "Busy" (.bytes []), .success (.bytes [])]
  obtain ⟨-, hrefused⟩ := bodies_faithful (haddress (.bytes [0x61])) htarget
    (nestedData_isData (.bytes [0x61])) [.success (.bytes [])]
  obtain ⟨hall, hsome⟩ := hcarried hplain
  exact ⟨hall, hsome [] rfl, hrefused (nestedData_holdsForeign.mpr (.bytes [0x61]))⟩

end Client

end ContentGateway
