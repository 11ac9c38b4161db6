import Mathlib
import ContentGateway.Proofs.Failure.Classified
import ContentGateway.Proofs.Json.Reading
import ContentGateway.Proofs.Transport.Attempts

/-!
# What leaves the transport

A call on a network is *settled* if it gives a value or a classified failure. It is settled but for
these escapes: a body holds a whole number too long to be read, the connection breaks in the body of
a refusal with a fault of the protocol, a failure cannot be told since something in it cannot be
shown, or a retry within the budget cannot be announced since its delay is too large.
-/

namespace ContentGateway

/-- Whether a result is a value or a classified failure. -/
def IsSettled : Except Fault Value → Prop
  | .ok _ => True
  | .error (.classified ..) => True
  | .error _ => False

/-- Whether a fault is neither a failed attempt, which is classified when it decides, nor
classified. -/
def Fault.IsForeign : Fault → Prop
  | .attempt .. => False
  | .classified .. => False
  | _ => True

/-- A misfit is neither classified nor a failed attempt. -/
theorem Fault.IsMisfit.isForeign {f : Fault} (h : f.IsMisfit) : f.IsForeign := by
  cases f with
  | attempt => exact h.elim
  | classified => exact h.elim
  | _ => trivial

/-- A call that ends with such a fault is not settled. -/
theorem Fault.IsForeign.not_isSettled {f : Fault} (h : f.IsForeign) : ¬ IsSettled (.error f) := by
  cases f with
  | classified => exact h.elim
  | _ => exact id

/-- A foreign fault is passed on as it is. -/
theorem Fault.IsForeign.verdict_eq {timeout : Value} {o : Outcome} {f : Fault} (h : f.IsForeign)
    (ho : Reply.interpret timeout o = .error f) : o.verdict timeout = .error f := by
  rw [Outcome.verdict, ho]
  cases f with
  | attempt => exact h.elim
  | _ => rfl

/-! ## Outcomes of a network -/

/-- Whether a fault is a condition that a network raises, of the system or of the protocol. -/
def Fault.IsNetwork : Fault → Prop
  | .condition c _ => c.isSystem ∨ c.isProtocol
  | _ => False

/-- Whether a body is one that a network can give. -/
def Reading.IsNetwork : Reading → Prop
  | .bytes _ => True
  | .fails f => f.IsNetwork

/-- Whether an outcome is one that a network can bring about. -/
def Outcome.IsNetwork : Outcome → Prop
  | .success body => body.IsNetwork
  | .refusal status _ body => (∃ s, status = .int s) ∧ body.IsNetwork
  | .failure f => f.IsNetwork

/-! ## Escapes -/

/-- What is shown in the message of an attempt that a fault ended. -/
def Fault.telling (timeout : Value) : Fault → Except Fault String
  | .condition .unreachable args => (args.headD .null).display
  | .condition .timedOut _ => timeout.display
  | f => f.message

/-- Whether the failure of an attempt can be told, in words and by its code. -/
def Fault.CanBeTold (timeout : Value) (f : Fault) : Prop :=
  (∃ s, f.telling timeout = .ok s) ∧ ∃ code, Failure.codeOf f = .ok code

/-- Whether a text of JSON stops the reader at a whole number that is too long. -/
def HasLongNumber (data : List UInt8) : Prop :=
  ∃ cs digits, Text.decode data = .ok cs ∧
    Json.read (String.ofList cs) = .error (.digitLimit digits)

/-- Whether the body of a refusal ends a call by a fault of its own. -/
def Reading.Escapes : Reading → Prop
  | .bytes data => HasLongNumber data
  | .fails f => Reply.isReadLoss f = false

/-- Whether an outcome that decides a call ends it by a fault that is not classified. -/
def Outcome.Escapes (timeout : Value) : Outcome → Prop
  | .success (.bytes data) => HasLongNumber data
  | .success (.fails f) => ¬ f.CanBeTold timeout
  | .refusal status _ body => (∀ s, status.display ≠ .ok s) ∨ body.Escapes
  | .failure f => ¬ f.CanBeTold timeout

/-! ## Bodies -/

/-- An empty text holds no value at all. -/
theorem read_nil : Json.read (String.ofList []) = .error (.flawed ⟨.value, 0, 1, 1⟩) := rfl

/-- A body that is a text has a number that is too long exactly if that stops the reader. -/
theorem hasLongNumber_iff {data : List UInt8} {cs : List Char} (h : Text.decode data = .ok cs) :
    HasLongNumber data ↔
      ∃ digits, Json.read (String.ofList cs) = .error (.digitLimit digits) := by
  simp only [HasLongNumber, h, Except.ok.injEq, exists_and_left, exists_eq_left']

/-- What is not text holds no number. -/
theorem not_hasLongNumber_of_error {data : List UInt8} {f : Text.Utf8Fault}
    (h : Text.decode data = .error f) : ¬ HasLongNumber data := by
  rintro ⟨cs, digits, hcs, -⟩
  rw [h] at hcs
  cases hcs

/-- An empty text holds no number. -/
theorem not_hasLongNumber_of_nil {data : List UInt8} (h : Text.decode data = .ok []) :
    ¬ HasLongNumber data := by
  rw [hasLongNumber_iff h, read_nil]
  rintro ⟨digits, hread⟩
  cases hread

/-- The body of a success is settled unless it holds a number too long. -/
theorem bodyValue_isSettled_iff (data : List UInt8) :
    IsSettled (Reply.bodyValue data) ↔ ¬ HasLongNumber data := by
  rw [Reply.bodyValue]
  split
  · next hempty =>
    obtain rfl := List.isEmpty_iff.mp hempty
    exact iff_of_true trivial (not_hasLongNumber_of_nil rfl)
  cases hdecode : Text.decode data with
  | error f => exact iff_of_true trivial (not_hasLongNumber_of_error hdecode)
  | ok cs =>
    rw [hasLongNumber_iff hdecode]
    dsimp only
    cases hread : Json.read (String.ofList cs) with
    | ok v => exact iff_of_true trivial (by simp)
    | error f =>
      cases f with
      | flawed f => exact iff_of_true trivial (by simp)
      | digitLimit digits => exact iff_of_false id (by simp)

/-- The body of a refusal is taken as a JSON value unless it ends the call. -/
theorem refusalBody_cases {body : Reading} (hbody : body.IsNetwork) :
    (¬ body.Escapes ∧ ∃ v, Reply.refusalBody body = .ok v ∧ v.IsJson) ∨
      (body.Escapes ∧ ∃ f, Reply.refusalBody body = .error f ∧ f.IsForeign) := by
  cases body with
  | fails f =>
    rw [Reading.Escapes, Reply.refusalBody]
    cases hloss : Reply.isReadLoss f with
    | true => exact .inl ⟨Bool.noConfusion, .null, rfl, .null⟩
    | false =>
      refine .inr ⟨rfl, f, rfl, ?_⟩
      cases f with
      | condition => trivial
      | _ => exact hbody.elim
  | bytes data =>
    rw [Reading.Escapes, Reply.refusalBody]
    cases hdecode : Text.decode data with
    | error f => exact .inl ⟨not_hasLongNumber_of_error hdecode, .null, rfl, .null⟩
    | ok cs =>
      cases cs with
      | nil => exact .inl ⟨not_hasLongNumber_of_nil hdecode, .null, rfl, .null⟩
      | cons c cs =>
        rw [hasLongNumber_iff hdecode]
        dsimp only
        cases hread : Json.read (String.ofList (c :: cs)) with
        | ok v => exact .inl ⟨by simp, v, rfl, Json.read_isJson hread⟩
        | error f =>
          cases f with
          | flawed f => exact .inl ⟨by simp, _, rfl, .text _⟩
          | digitLimit digits => exact .inr ⟨by simp, _, rfl, trivial⟩

/-! ## Classifying what a network fails with -/

/-- Telling a fault fails with misfits only. -/
theorem telling_misfit (timeout : Value) (f : Fault) : OnlyMisfits (f.telling timeout) := by
  rw [Fault.telling.eq_def]
  split
  · exact Value.display_misfit _
  · exact Value.display_misfit _
  · exact Fault.message_misfit _

/-- An attempt that a condition of the network ended fails without a reply, in words that show what
there is to tell. -/
theorem attemptFault_eq (timeout : Value) {f : Fault} (hf : f.IsNetwork) :
    ∃ wording : String → String, Reply.attemptFault timeout f =
      (f.telling timeout).bind fun s => .ok (Reply.noReply (wording s) f) := by
  cases f with
  | condition c args =>
    rw [Reply.attemptFault]
    split_ifs with hunreachable htimedOut hsystem hprotocol
    · subst hunreachable
      exact ⟨fun shown => "Connection error: " ++ shown, rfl⟩
    · subst htimedOut
      exact ⟨fun shown => "Request timed out after " ++ shown ++ " seconds", rfl⟩
    · refine ⟨fun shown => "Connection error: " ++ shown, ?_⟩
      rw [Fault.telling]
      · rfl
      · simpa using hunreachable
      · simpa using htimedOut
    · refine ⟨fun shown => "Connection error: " ++ c.label ++ ": " ++ shown, ?_⟩
      rw [Fault.telling]
      · rfl
      · simpa using hunreachable
      · simpa using htimedOut
    · exact absurd hf (not_or.mpr ⟨hsystem, hprotocol⟩)
  | _ => exact hf.elim

/-- A failure without a reply is classified by its code. -/
theorem classify_noReply (message : String) (f : Fault) :
    Failure.classifyAttempt message .null .null (some f) =
      (Failure.codeOf f).bind fun code => .ok (.classified .network Failure.networkMessage .null
        (.dict [("message", .text message), ("code", .text code)]) true) :=
  rfl

/-- The verdict of an attempt that a condition of the network ended: classified as one of the
network if it can be told, otherwise the misfit that stands in the way. -/
theorem verdict_attempt_cases {timeout : Value} {o : Outcome} {f : Fault} (hf : f.IsNetwork)
    (ho : Reply.interpret timeout o = Reply.failWith (Reply.attemptFault timeout f)) :
    (f.CanBeTold timeout ∧ ∃ details, o.verdict timeout =
        .error (.classified .network Failure.networkMessage .null details true)) ∨
      (¬ f.CanBeTold timeout ∧ ∃ e : Fault, e.IsMisfit ∧ o.verdict timeout = .error e) := by
  obtain ⟨wording, hattempt⟩ := attemptFault_eq timeout hf
  rw [Fault.CanBeTold]
  cases htelling : f.telling timeout with
  | error e =>
    have hmisfit := telling_misfit timeout f e htelling
    have hinterpret : Reply.interpret timeout o = .error e := by
      rw [ho, hattempt, htelling]
      rfl
    exact .inr ⟨by simp, e, hmisfit, hmisfit.isForeign.verdict_eq hinterpret⟩
  | ok s =>
    have hverdict : o.verdict timeout =
        Reply.failWith (Failure.classifyAttempt (wording s) .null .null (some f)) := by
      rw [Outcome.verdict, ho, hattempt, htelling]
      rfl
    rw [hverdict, classify_noReply]
    cases hcode : Failure.codeOf f with
    | error e => exact .inr ⟨by simp, e, Failure.codeOf_misfit f e hcode, rfl⟩
    | ok code => exact .inl ⟨⟨⟨s, rfl⟩, code, rfl⟩, _, rfl⟩

/-- A failed attempt ends in a classified failure exactly if it can be told. -/
theorem verdict_attempt_isSettled_iff {timeout : Value} {o : Outcome} {f : Fault}
    (hf : f.IsNetwork)
    (ho : Reply.interpret timeout o = Reply.failWith (Reply.attemptFault timeout f)) :
    IsSettled (o.verdict timeout) ↔ f.CanBeTold timeout := by
  rcases verdict_attempt_cases hf ho with ⟨htold, details, hverdict⟩ | ⟨htold, e, he, hverdict⟩
  · rw [hverdict]
    exact iff_of_true trivial htold
  · rw [hverdict]
    exact iff_of_false he.isForeign.not_isSettled htold

/-- A refused attempt whose body is JSON is classified. -/
theorem classify_refusal (message : String) (s : ℤ) {body : Value} (h : body.IsJson)
    (cause : Option Fault) :
    IsSettled (Reply.failWith (Failure.classifyAttempt message (.int s) body cause)) := by
  obtain ⟨said, hsaid⟩ := Failure.bodyMessage_ok h
  obtain ⟨row, hrow⟩ := Failure.statusClass_int s
  have hnull : (Value.int s).isNull = false := rfl
  rw [Failure.classifyAttempt, hnull, hsaid, hrow]
  trivial

/-! ## Verdicts and calls -/

/-- The verdict of a refusal: its failed attempt in its classified form if its status can be shown
and its body is taken, otherwise the fault that stands in the way. -/
theorem verdict_refusal_cases (timeout : Value) (s : ℤ) (reason : String) {body : Reading}
    (hbody : body.IsNetwork) :
    (∃ shown v, (Value.int s).display = .ok shown ∧ ¬ body.Escapes ∧
        Reply.refusalBody body = .ok v ∧ v.IsJson ∧
        (Outcome.refusal (.int s) reason body).verdict timeout =
          Reply.failWith (Failure.classifyAttempt ("HTTP Error " ++ shown ++ ": " ++ reason)
            (.int s) v (some (.refusal (.int s) reason)))) ∨
      (((∀ shown, (Value.int s).display ≠ .ok shown) ∨ body.Escapes) ∧ ∃ f : Fault, f.IsForeign ∧
        (Outcome.refusal (.int s) reason body).verdict timeout = .error f) := by
  have hmessage : (Fault.refusal (.int s) reason).message =
      (Value.int s).display.bind fun shown => .ok ("HTTP Error " ++ shown ++ ": " ++ reason) := by
    rw [Fault.message, Fault.render]
    rfl
  cases hshown : (Value.int s).display with
  | error e =>
    have hforeign := (Value.display_misfit _ e hshown).isForeign
    have hinterpret : Reply.interpret timeout (.refusal (.int s) reason body) = .error e := by
      rw [Reply.interpret, Reply.refusalFault, hmessage, hshown]
      rfl
    exact .inr ⟨.inl (by simp), e, hforeign, hforeign.verdict_eq hinterpret⟩
  | ok shown =>
    rcases refusalBody_cases hbody with ⟨hescapes, v, hv, hjson⟩ | ⟨hescapes, f, hf, hforeign⟩
    · refine .inl ⟨shown, v, rfl, hescapes, hv, hjson, ?_⟩
      rw [Outcome.verdict, Reply.interpret, Reply.refusalFault, hmessage, hshown, hv]
      rfl
    · have hinterpret : Reply.interpret timeout (.refusal (.int s) reason body) = .error f := by
        rw [Reply.interpret, Reply.refusalFault, hmessage, hshown, hf]
        rfl
      exact .inr ⟨.inr hescapes, f, hforeign, hforeign.verdict_eq hinterpret⟩

/-- A refusal is classified unless its status cannot be shown or its body ends the call. -/
theorem verdict_refusal_isSettled_iff {timeout : Value} (s : ℤ) (reason : String) {body : Reading}
    (hbody : body.IsNetwork) :
    IsSettled ((Outcome.refusal (.int s) reason body).verdict timeout) ↔
      (∃ shown, (Value.int s).display = .ok shown) ∧ ¬ body.Escapes := by
  rcases verdict_refusal_cases timeout s reason hbody with
    ⟨shown, v, hshown, hescapes, -, hjson, hverdict⟩ | ⟨hreason, f, hforeign, hverdict⟩
  · rw [hverdict]
    exact iff_of_true (classify_refusal _ s hjson _) ⟨⟨shown, hshown⟩, hescapes⟩
  · rw [hverdict]
    refine iff_of_false hforeign.not_isSettled ?_
    rintro ⟨⟨shown, hshown⟩, hescapes⟩
    exact hreason.elim (fun h => h shown hshown) hescapes

/-- The verdict of an outcome of a network is settled unless the outcome escapes. -/
theorem verdict_isSettled_iff {timeout : Value} {o : Outcome} (ho : o.IsNetwork) :
    IsSettled (o.verdict timeout) ↔ ¬ o.Escapes timeout := by
  cases o with
  | failure f =>
    rw [verdict_attempt_isSettled_iff ho rfl, Outcome.Escapes, not_not]
  | success body =>
    cases body with
    | fails f => rw [verdict_attempt_isSettled_iff ho rfl, Outcome.Escapes, not_not]
    | bytes data =>
      rw [Outcome.Escapes, ← bodyValue_isSettled_iff, Outcome.verdict_bytes]
  | refusal status reason body =>
    obtain ⟨⟨s, rfl⟩, hbody⟩ := ho
    simp only [verdict_refusal_isSettled_iff s reason hbody, Outcome.Escapes, not_or, not_forall,
      not_not]

/-- A condition of the network is no failed attempt, whose status would have to be proper. -/
theorem Fault.IsNetwork.hasStatus {f : Fault} (h : f.IsNetwork) : f.HasStatus := by
  cases f with
  | attempt => exact h.elim
  | _ => trivial

/-- Nor is the fault in a body that a network can give. -/
theorem Reading.IsNetwork.hasStatus {body : Reading} (h : body.IsNetwork) : body.HasStatus := by
  cases body with
  | bytes => trivial
  | fails f => exact Fault.IsNetwork.hasStatus h

/-- The statuses in an outcome of the network are proper. -/
theorem Outcome.IsNetwork.hasStatus {o : Outcome} (h : o.IsNetwork) : o.HasStatus := by
  cases o with
  | success body => exact Reading.IsNetwork.hasStatus h
  | failure f => exact Fault.IsNetwork.hasStatus h
  | refusal status reason body =>
    obtain ⟨⟨s, rfl⟩, hbody⟩ := h
    exact ⟨trivial, hbody.hasStatus⟩

/-- A call on a network is settled exactly if every retry that the budget covers can be made and the
outcome that decides does not escape. -/
theorem perform_isSettled_iff {client : Client} {budget : ℤ} {base : Number} {call : Call}
    {h : Client.Heading} {request : Request} {tape : Tape} {k : ℕ}
    (hclient : client.HasPolicy budget base) (hprepare : client.prepare call = .ok (h, request))
    (hnetwork : ∀ o ∈ tape, o.IsNetwork) (hk : k = retriesMade request.timeout budget tape)
    (htape : k < tape.length) :
    IsSettled (client.perform call tape).result ↔
      (∀ n < k, CanRetry budget base n) ∧ ¬ tape[k].Escapes request.timeout := by
  have hdecides : IsSettled (tape[k].verdict request.timeout) ↔
      ¬ tape[k].Escapes request.timeout :=
    verdict_isSettled_iff (hnetwork tape[k] (List.getElem_mem htape))
  by_cases hretry : ∀ n < k, CanRetry budget base n
  · rw [perform_eq hclient hprepare (fun o ho => (hnetwork o ho).hasStatus) hk htape hretry]
    exact hdecides.trans (iff_and_self.mpr fun _ => hretry)
  · obtain ⟨f, hmisfit, hresult⟩ := perform_misfit hclient hprepare hk htape hretry
    rw [hresult]
    exact iff_of_false hmisfit.isForeign.not_isSettled fun h => hretry h.1

/-- A busy gateway whose body breaks off by a loss of the connection is classified; one whose body
is shorter than it said is not. -/
theorem perform_isSettled_busy :
    IsSettled ((Client.ofLocal 0 (.int 1)).perform (.plain "GET" "/x")
      [.refusal (.int 503) "Busy" (.fails (.condition .connectionReset []))]).result ∧
    ¬ IsSettled ((Client.ofLocal 0 (.int 1)).perform (.plain "GET" "/x")
      [.refusal (.int 503) "Busy" (.fails (.condition .shortRead [.bytes []]))]).result := by
  have hnetwork : ∀ c : Condition, c.isSystem ∨ c.isProtocol → ∀ args,
      ∀ o ∈ [Outcome.refusal (.int 503) "Busy" (.fails (.condition c args))], o.IsNetwork := by
    intro c hc args o ho
    rw [List.mem_singleton.mp ho]
    exact ⟨⟨503, rfl⟩, hc⟩
  have hstatus : (Value.int 503).display = .ok "503" := rfl
  constructor
  · rw [perform_isSettled_iff (k := 0) (Client.ofLocal_hasPolicy 0 (.int 1))
      (Client.prepare_ofLocal 0 (.int 1)) (hnetwork .connectionReset (.inl rfl) []) rfl (by decide)]
    refine ⟨fun n hn => absurd hn (Nat.not_lt_zero n), ?_⟩
    rintro (hshown | hloss)
    · exact hshown _ hstatus
    · exact Bool.noConfusion hloss
  · rw [perform_isSettled_iff (k := 0) (Client.ofLocal_hasPolicy 0 (.int 1))
      (Client.prepare_ofLocal 0 (.int 1)) (hnetwork .shortRead (.inr rfl) [.bytes []]) rfl
      (by decide)]
    exact fun h => h.2 (.inr rfl)

end ContentGateway
