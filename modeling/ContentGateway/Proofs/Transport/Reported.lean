import Mathlib
import ContentGateway.Proofs.Decimal.Whole
import ContentGateway.Proofs.Transport.Escape

/-!
# What is reported of a failure

A call that ends on a refusal is reported under the status of the reply: the status alone decides
the kind and whether the failure is retryable, and the bytes of the body alone decide the details. A
call that ends without a reply is reported as one of the network, and nothing else is.

The report needs words. What a network gives has them: its numbers were read from text, the status
in the first line of a reply as well as the length that a body falls short of, so they can be
written again; and whatever else a failure holds is plain values, or another such failure behind it.
-/

namespace ContentGateway

namespace Failure

/-! ## Refusals -/

/-- The kind under which a reply of a status is reported, and whether that is retryable. -/
def reportedAs (s : ℤ) : FailureKind × Bool :=
  match statusTable.find? fun row => s = row.status with
  | some row => (row.kind, row.retryable)
  | none => (.unclassified, false)

example : reportedAs 503 = (.serverRetryable, true) := by decide

example : reportedAs 418 = (.unclassified, false) := by decide

/-- A status is looked up as the kind under which it is reported. -/
theorem statusClass_reportedAs (s : ℤ) :
    ∃ default, statusClass (.int s) = .ok ((reportedAs s).1, (reportedAs s).2, default) := by
  rw [statusClass.eq_def, reportedAs]
  dsimp only
  simp only [Value.isInt_int]
  cases statusTable.find? fun row => s = row.status with
  | some row => exact ⟨row.message, rfl⟩
  | none => exact ⟨"Unknown error", rfl⟩

/-- No status is one of the network. -/
theorem reportedAs_ne_network (s : ℤ) : (reportedAs s).1 ≠ .network := by
  have hrows : ∀ row ∈ statusTable, row.kind ≠ .network := by decide
  rw [reportedAs]
  split
  · next row hrow => exact hrows row (List.mem_of_find?_eq_some hrow)
  · exact FailureKind.noConfusion

/-- The details that a text gives: an empty one gives none. -/
def detailsOfText (t : String) : Value := if t = "" then .null else .dict [("message", .text t)]

/-- The details that the bytes of a body give: the object that they hold unless it is empty, a text
around which an object is put, and nothing from any other value. What is no JSON is a text, and what
is no text gives nothing. -/
def detailsOf (data : List UInt8) : Value :=
  match Text.decode data with
  | .error _ => .null
  | .ok cs =>
    match Json.read (String.ofList cs) with
    | .ok (.dict (field :: fields)) => .dict (field :: fields)
    | .ok (.text t) => detailsOfText t
    | .ok (.unpaired t) => .dict [("message", .unpaired t)]
    | .ok _ => .null
    | .error _ => detailsOfText (String.ofList cs)

/-- The details of a body that is a text are that text, unless it is empty. -/
theorem bodyDetails_text (t : String) : bodyDetails (.text t) = detailsOfText t := by
  rw [bodyDetails, detailsOfText, Value.truthy]
  by_cases ht : t = ""
  · rw [if_pos ht, ht]
    rfl
  · rw [if_neg ht, if_neg]
    simpa using ht

/-- The bytes of a body decide the details. -/
theorem bodyDetails_refusalBody {data : List UInt8} {v : Value}
    (h : Reply.refusalBody (.bytes data) = .ok v) : bodyDetails v = detailsOf data := by
  rw [Reply.refusalBody] at h
  rw [detailsOf]
  cases hdecode : Text.decode data with
  | error f =>
    rw [hdecode] at h
    cases h
    rfl
  | ok cs =>
    rw [hdecode] at h
    cases cs with
    | nil =>
      cases h
      rfl
    | cons c cs =>
      dsimp only at h ⊢
      cases hread : Json.read (String.ofList (c :: cs)) with
      | error f =>
        rw [hread] at h
        cases f with
        | flawed f =>
          cases h
          exact bodyDetails_text _
        | digitLimit digits => cases h
      | ok w =>
        rw [hread] at h
        cases h
        cases v with
        | text t => exact bodyDetails_text t
        | dict fields => cases fields <;> rfl
        | unpaired t => rfl
        | _ =>
          rw [bodyDetails.eq_def]
          split <;> rfl

/-- A first text that is not empty is taken. -/
theorem firstNonempty_ne_empty {first second : String} (h : first ≠ "") :
    firstNonempty (some first) second ≠ "" := by
  rw [firstNonempty, if_neg (by simpa using h)]
  exact h

/-- What is said of a failed attempt is not empty if its own words are not. -/
theorem firstNonempty_said_ne_empty (said : Option String) {message : String} (h : message ≠ "") :
    firstNonempty said message ≠ "" := by
  cases said with
  | none => exact h
  | some s =>
    by_cases hs : s = ""
    · rw [firstNonempty, if_pos (by simpa using hs)]
      exact h
    · exact firstNonempty_ne_empty hs

/-- A refused attempt whose body is JSON is reported under its status. -/
theorem classifyAttempt_reported (s : ℤ) {message : String} (hmessage : message ≠ "")
    {body : Value} (hbody : body.IsJson) (cause : Option Fault) :
    ∃ said, said ≠ "" ∧ classifyAttempt message (.int s) body cause =
      .ok (.classified (reportedAs s).1 said (.int s) (bodyDetails body) (reportedAs s).2) := by
  obtain ⟨said, hsaid⟩ := bodyMessage_ok hbody
  obtain ⟨default, hclass⟩ := statusClass_reportedAs s
  have hnull : (Value.int s).isNull = false := rfl
  refine ⟨firstNonempty (some (firstNonempty said message)) default,
    firstNonempty_ne_empty (firstNonempty_said_ne_empty said hmessage), ?_⟩
  rw [classifyAttempt, hnull, hsaid]
  simp only [bind, Except.bind, hclass]
  rfl

end Failure

/-- The verdict of a refusal whose body was read is its report, if there are words for it. -/
theorem verdict_refusal_reported (timeout : Value) {s : ℤ} (reason : String) {data : List UInt8}
    (hs : s.natAbs < 10 ^ Decimal.digitLimit) (hdata : ¬ HasLongNumber data) :
    ∃ message, message ≠ "" ∧ (Outcome.refusal (.int s) reason (.bytes data)).verdict timeout =
      .error (.classified (Failure.reportedAs s).1 message (.int s) (Failure.detailsOf data)
        (Failure.reportedAs s).2) := by
  have hdisplay : (Value.int s).display = .ok (Decimal.intText s) := by
    rw [Value.display, Value.render, Value.wholeText_ok hs]
  have hbody : (Reading.bytes data).IsNetwork := trivial
  rcases verdict_refusal_cases timeout s reason hbody with
    ⟨shown, v, -, -, hv, hjson, hverdict⟩ | ⟨hreason, -⟩
  · have hwords : "HTTP Error " ++ shown ++ ": " ++ reason ≠ "" := by simp
    obtain ⟨said, hsaid, hclassify⟩ := Failure.classifyAttempt_reported s hwords hjson
      (some (.refusal (.int s) reason))
    refine ⟨said, hsaid, ?_⟩
    rw [hverdict, hclassify, Failure.bodyDetails_refusalBody hv]
    rfl
  · exact absurd hdisplay (hreason.resolve_right hdata _)

/-- The verdict of a refusal is never one of the network. -/
theorem verdict_refusal_ne_network (timeout : Value) (s : ℤ) (reason : String) {body : Reading}
    (hbody : body.IsNetwork) {message : String} {status details : Value} {retryable : Bool} :
    (Outcome.refusal (.int s) reason body).verdict timeout ≠
      .error (.classified .network message status details retryable) := by
  intro hnetwork
  rcases verdict_refusal_cases timeout s reason hbody with
    ⟨shown, v, -, -, -, hjson, hverdict⟩ | ⟨-, f, hforeign, hverdict⟩
  · have hwords : "HTTP Error " ++ shown ++ ": " ++ reason ≠ "" := by simp
    obtain ⟨said, -, hclassify⟩ := Failure.classifyAttempt_reported s hwords hjson
      (some (.refusal (.int s) reason))
    rw [hverdict, hclassify, Reply.failWith, Except.error.injEq, Fault.classified.injEq] at hnetwork
    exact Failure.reportedAs_ne_network s hnetwork.1
  · rw [hverdict] at hnetwork
    cases hnetwork
    exact hforeign

/-- A body of success does not end as a failure of the network. -/
theorem bodyValue_ne_network {data : List UInt8} {message : String} {status details : Value}
    {retryable : Bool} :
    Reply.bodyValue data ≠ .error (.classified .network message status details retryable) := by
  rw [Reply.bodyValue]
  split
  · simp
  split
  · simp
  dsimp only
  split <;> simp

/-! ## Failures without a reply -/

/-- A condition made of plain values. A reply cut short comes with its bytes and maybe with how many
more were expected, and behind an unreachable host there may be another condition. -/
inductive Fault.IsPlain : Fault → Prop
  | condition {c : Condition} {args : List Value} (hc : c ≠ .shortRead)
      (hargs : ∀ v ∈ args, v.IsJson) : IsPlain (.condition c args)
  | shortRead (data : List UInt8) : IsPlain (.condition .shortRead [.bytes data])
  | shortReadOf (data : List UInt8) {expected : ℤ}
      (h : expected.natAbs < 10 ^ Decimal.digitLimit) :
      IsPlain (.condition .shortRead [.bytes data, .int expected])
  | unreachable {f : Fault} (h : f.IsPlain) : IsPlain (.condition .unreachable [.fault f])

namespace Fault.IsPlain

variable {f : Fault}

/-- A plain condition has a message. -/
theorem message_ok (h : f.IsPlain) : ∃ s, f.message = .ok s := by
  induction h with
  | condition hc hargs =>
    exact Fault.message_condition_ok hc fun v hv => (hargs v hv).render_ok
  | shortRead data =>
    exact ⟨_, by rw [Fault.message, Fault.render]; rfl⟩
  | @shortReadOf data expected h =>
    have hwhole : (Value.int expected).wholePart = .ok (Decimal.intText expected) :=
      Value.wholeText_ok h
    have hmore : ∃ more, expectedMore (.int expected) = .ok more := by
      rw [expectedMore]
      · exact exists_bind_ok ⟨_, hwhole⟩ fun _ => ⟨_, rfl⟩
      · simp
    rw [Fault.message, Fault.render, shortReadMessage]
    exact exists_bind_ok hmore fun _ => ⟨_, rfl⟩
  | unreachable h ih =>
    obtain ⟨s, hs⟩ := ih
    exact ⟨_, by rw [Fault.message, Fault.render, Value.render, ← Fault.message, hs]; rfl⟩

/-- A condition with values of JSON has one for its number. -/
theorem systemNumber_isJson (c : Condition) {args : List Value} (h : ∀ v ∈ args, v.IsJson) :
    (Failure.systemNumber c args).IsJson := by
  rw [Failure.systemNumber.eq_def]
  split
  · split
    · exact h _ List.mem_cons_self
    · exact .null
  · exact .null

/-- A plain condition has a code. -/
theorem codeOf_ok (h : f.IsPlain) : ∃ code, Failure.codeOf f = .ok code := by
  induction h with
  | @condition c args hc hargs =>
    rw [Failure.codeOf.eq_def]
    split
    · next reason rest hcondition =>
      cases hcondition
      cases hargs _ List.mem_cons_self
    · next c' args' hcondition =>
      cases hcondition
      dsimp only
      split
      · exact ⟨_, rfl⟩
      · exact (systemNumber_isJson c hargs).render_ok .bare
    · exact ⟨_, rfl⟩
  | shortRead data => exact ⟨_, rfl⟩
  | shortReadOf data h => exact ⟨_, rfl⟩
  | unreachable h ih =>
    rw [Failure.codeOf]
    exact exists_bind_ok ih fun _ => ⟨_, rfl⟩

/-- A plain condition can be told. -/
theorem telling_ok (h : f.IsPlain) {timeout : Value} (htimeout : timeout.IsShowable) :
    ∃ s, f.telling timeout = .ok s := by
  rw [Fault.telling.eq_def]
  split
  · next args =>
    -- an unreachable host is told by its reason alone
    cases h with
    | condition hc hargs =>
      cases args with
      | nil => exact ⟨_, rfl⟩
      | cons reason rest => exact (hargs reason List.mem_cons_self).render_ok .bare
    | unreachable h =>
      rw [List.headD_cons, Value.display, Value.render]
      exact h.message_ok
  · exact htimeout.render_ok .bare
  · exact h.message_ok

/-- A plain failure has its words and its code. -/
theorem canBeTold (h : f.IsPlain) {timeout : Value} (htimeout : timeout.IsShowable) :
    f.CanBeTold timeout :=
  ⟨h.telling_ok htimeout, h.codeOf_ok⟩

end Fault.IsPlain

/-! ## Failures of the network -/

/-- Whether an outcome is one that a network can give. The status of a reply was read from text, so
it is not too long for one, and what breaks off is a failure made of plain values. -/
def Outcome.CanBeGiven : Outcome → Prop
  | .success (.bytes _) => True
  | .success (.fails f) => f.IsNetwork ∧ f.IsPlain
  | .refusal status _ body => (∃ s : ℤ, status = .int s ∧ s.natAbs < 10 ^ Decimal.digitLimit) ∧
    match body with
    | .bytes _ => True
    | .fails f => f.IsNetwork ∧ f.IsPlain
  | .failure f => f.IsNetwork ∧ f.IsPlain

/-- Whether an outcome is a failure without a reply, in sending or in reading a body. -/
def Outcome.FailsWith (o : Outcome) (f : Fault) : Prop := o = .failure f ∨ o = .success (.fails f)

/-- A failure without a reply ends the attempt. -/
theorem Outcome.FailsWith.interpret_eq {o : Outcome} {f : Fault} (h : o.FailsWith f)
    (timeout : Value) :
    Reply.interpret timeout o = Reply.failWith (Reply.attemptFault timeout f) := by
  rcases h with rfl | rfl <;> rfl

/-- What a network can give is what it can bring about. -/
theorem Outcome.CanBeGiven.isNetwork {o : Outcome} (h : o.CanBeGiven) : o.IsNetwork := by
  cases o with
  | success body =>
    cases body with
    | bytes data => trivial
    | fails f => exact h.1
  | refusal status reason body =>
    obtain ⟨⟨s, rfl, -⟩, hbody⟩ := h
    refine ⟨⟨s, rfl⟩, ?_⟩
    cases body with
    | bytes data => trivial
    | fails f => exact hbody.1
  | failure f => exact h.1

/-- A failure that a network can give is a plain condition of the network. -/
theorem Outcome.FailsWith.isPlain {o : Outcome} {f : Fault} (h : o.FailsWith f)
    (ho : o.CanBeGiven) : f.IsNetwork ∧ f.IsPlain := by
  rcases h with rfl | rfl <;> exact ho

/-- No status in the outcome of such a failure is improper. -/
theorem Outcome.FailsWith.hasStatus {o : Outcome} {f : Fault} (h : o.FailsWith f)
    (hf : f.IsNetwork) : o.HasStatus := by
  rcases h with rfl | rfl <;> exact hf.hasStatus

/-- A failure without a reply is reported as one of the network exactly if it can be told. -/
theorem verdict_network_iff {timeout : Value} {o : Outcome} {f : Fault} (hf : f.IsNetwork)
    (ho : o.FailsWith f) :
    f.CanBeTold timeout ↔ ∃ message details,
      o.verdict timeout = .error (.classified .network message .null details true) := by
  rcases verdict_attempt_cases hf (ho.interpret_eq timeout) with
    ⟨htold, details, hverdict⟩ | ⟨htold, e, he, hverdict⟩
  · exact iff_of_true htold ⟨_, details, hverdict⟩
  · refine iff_of_false htold ?_
    rintro ⟨message, details, hnetwork⟩
    rw [hverdict] at hnetwork
    cases hnetwork
    exact he

/-- Only what failed without a reply is reported as a failure of the network. -/
theorem failsWith_of_network {timeout : Value} {o : Outcome} (ho : o.IsNetwork) {message : String}
    {status details : Value} {retryable : Bool}
    (h : o.verdict timeout = .error (.classified .network message status details retryable)) :
    ∃ f, f.IsNetwork ∧ o.FailsWith f := by
  cases o with
  | failure f => exact ⟨f, ho, .inl rfl⟩
  | refusal status reason body =>
    obtain ⟨⟨s, rfl⟩, hbody⟩ := ho
    exact absurd h (verdict_refusal_ne_network _ s reason hbody)
  | success body =>
    cases body with
    | fails f => exact ⟨f, ho, .inr rfl⟩
    | bytes data =>
      rw [Outcome.verdict_bytes] at h
      exact absurd h bodyValue_ne_network

/-! ## Whole calls -/

section Call

variable {client : Client} {budget : ℤ} {base : Number} {call : Call} {h : Client.Heading}
  {request : Request} {tape : Tape} {k : ℕ}

/-- A call ends with the verdict of the outcome that decides it. -/
theorem perform_verdict (hclient : client.HasPolicy budget base) (hbudget : budget ≤ 1024)
    (hrange : base.InRange budget) (hprepare : client.prepare call = .ok (h, request))
    (hk : k = retriesMade request.timeout budget tape) (htape : k < tape.length)
    (hstatus : tape[k].HasStatus) :
    (client.perform call tape).result = tape[k].verdict request.timeout := by
  rw [perform_decided hclient hprepare hk htape hstatus fun i hi =>
    hrange.canRetry hbudget (covered_of_lt hk hi)]
  rfl

end Call

end ContentGateway
