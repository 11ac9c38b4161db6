import Mathlib
import ContentGateway.Proofs.Content.Collection
import ContentGateway.Proofs.Content.Shapes
import ContentGateway.Proofs.Transport.Prepare

/-!
# What operations make of replies

An operation on contents is one call, followed by a reading of what the reply holds. So whatever a
reply of success holds, the operation gives what it documents, or a classified failure, if the reply
has the shape that the operation wants, and fails by a misuse of the reply otherwise. A walk is
stopped by a misuse exactly if one of the replies that it asked for is not a page to go on from.
-/

namespace ContentGateway

/-! ## Operations -/

/-- An operation on the contents of a schema. -/
inductive Operation where
  | list (selection : Selection)
  | get (id : String)
  | create (data : Value) (options : CreateOptions)
  | update (id : String) (data : Value) (options : UpdateOptions)
  | delete (id : String) (options : DeleteOptions)
  | changeStatus (id : String) (action : StatusAction)

namespace Operation

/-- What an operation documents as its result. -/
@[reducible] def Answer : Operation → Type
  | .list _ => Page
  | .get _ => Content
  | .delete .. => Unit
  | .create .. | .update .. | .changeStatus .. => Option Content

def run (client : Client) (schema : String) : (op : Operation) → Job op.Answer
  | .list selection => client.list (.text schema) selection
  | .get id => client.getContent (.text schema) (.text id)
  | .create data options => client.create (.text schema) data options
  | .update id data options => client.update (.text schema) (.text id) data options
  | .delete id options => client.deleteContent (.text schema) (.text id) options
  | .changeStatus id action => client.changeStatus (.text schema) (.text id) action

def call (schema : String) : Operation → Except Fault Call
  | .list selection => do
    let path ← Path.collection (.text schema)
    return { Call.plain "GET" path with parameters := ← selection.compile }
  | .get id => do
    return Call.plain "GET" (← Path.item (.text schema) (.text id))
  | .create data options => do
    let path ← Path.collection (.text schema)
    return { Call.plain "POST" path with
      data, parameters := [("publish", options.publish.orElse .null), ("id", options.id)] }
  | .update id data options => do
    let headers ← Client.versionHeaders options.expectedVersion
    let path ← Path.item (.text schema) (.text id)
    return { Call.plain (if options.patch.truthy then "PATCH" else "PUT") path with data, headers }
  | .delete id options => do
    let path ← Path.item (.text schema) (.text id)
    return { Call.plain "DELETE" path with
      parameters := [("permanent", options.permanent.orElse .null)] }
  | .changeStatus id action => do
    return Call.plain "PUT" (← Path.statusAction (.text schema) (.text id) action)

/-- What an operation makes of the value in a reply. -/
def read (schema : String) : (op : Operation) → Value → Except Fault op.Answer
  | .list _, v => Page.ofReply v
  | .get id, v => do
    match ← Content.ofReply v with
    | some c => return c
    | none => throw (← Client.noContent (.text schema) (.text id))
  | .delete .., _ => .ok ()
  | .create .., v | .update .., v | .changeStatus .., v => Content.ofReply v

/-- Whether the value in a reply has the shape that an operation wants. -/
def Accepts : Operation → Value → Prop
  | .list _, v => v.IsPage
  | .delete .., _ => True
  | .get _, v | .create .., v | .update .., v | .changeStatus .., v => v.IsObject → v.IsItem

/-- Where no content comes for an identifier, that is a classified failure. -/
theorem noContent_text (schema id : String) :
    Client.noContent (.text schema) (.text id) =
      .ok (.classified .unclassified ("Empty response for content " ++ id) .null
        (.dict [("schema", .text schema), ("id", .text id)]) false) := by
  rw [Client.noContent, Value.display, Value.render]
  rfl

/-- A content that is named by texts has a path. -/
theorem item_text (schema id : String) : ∃ path, Path.item (.text schema) (.text id) = .ok path :=
  ⟨_, rfl⟩

/-- An operation is its call, followed by its reading of what the reply holds. -/
theorem run_eq (client : Client) (schema : String) (op : Operation) :
    op.run client schema = (liftM (op.call schema) : Job Call) >>= fun call =>
      client.perform call >>= fun v => liftM (op.read schema v) := by
  cases op with
  | list selection =>
    rw [run, Client.list, call, Path.collection_text]
    cases selection.compile <;> rfl
  | get id =>
    obtain ⟨path, hpath⟩ := item_text schema id
    rw [run, Client.getContent, call, hpath, Job.ok_bind]
    refine congrArg (client.perform (Call.plain "GET" path) >>= ·) (funext fun v => ?_)
    rw [read, noContent_text]
    cases Content.ofReply v with
    | error f => rfl
    | ok found => cases found <;> rfl
  | create data options =>
    rw [run, Client.create, call, Path.collection_text]
    rfl
  | update id data options =>
    obtain ⟨path, hpath⟩ := item_text schema id
    rw [run, Client.update, call, hpath]
    cases Client.versionHeaders options.expectedVersion with
    | error f => rfl
    | ok headers =>
      rw [Job.ok_bind, Job.ok_bind]
      by_cases hpatch : options.patch.truthy
      · rw [if_pos hpatch, if_pos hpatch]
        rfl
      · rw [if_neg hpatch, if_neg hpatch]
        rfl
  | delete id options =>
    obtain ⟨path, hpath⟩ := item_text schema id
    rw [run, Client.deleteContent, call, hpath]
    rfl
  | changeStatus id action =>
    obtain ⟨path, hpath⟩ := item_text schema id
    rw [run, Client.changeStatus, call, Path.statusAction, hpath]
    rfl

variable {client : Client} {schema : String} {op : Operation} {tape rest : Tape} {v : Value}
  {events : List Event}

/-- An operation whose call gives a value makes of it what it reads. -/
theorem run_of_perform {call : Call} (hcall : op.call schema = .ok call)
    (hperform : client.perform call tape = ⟨.ok v, events, rest⟩) :
    op.run client schema tape = ⟨op.read schema v, events, rest⟩ := by
  rw [run_eq, hcall, Job.ok_bind]
  exact Job.bind_lift_of_ok hperform (op.read schema)

/-- An operation gives what it documents, or an unclassified failure, of a value in the shape that
it wants, and finds any other value badly shaped. -/
theorem read_cases (schema : String) (op : Operation) (v : Value) :
    (op.Accepts v ∧ ((∃ a, op.read schema v = .ok a) ∨ ∃ said details,
        op.read schema v = .error (.classified .unclassified said .null details false))) ∨
      (¬ op.Accepts v ∧ ∃ f, op.read schema v = .error f ∧ f.IsBadShape) := by
  have hcontent := Content.ofReply_cases v
  cases op with
  | list selection =>
    apply (Page.ofReply_cases v).imp_left
    exact fun ⟨hpage, p, hp, _⟩ => ⟨hpage, .inl ⟨p, hp⟩⟩
  | delete id options => exact .inl ⟨trivial, .inl ⟨(), rfl⟩⟩
  | get id =>
    rw [Accepts, read, noContent_text]
    rcases hcontent with ⟨hitem, c, hc⟩ | ⟨hobject, hnone⟩ | ⟨hobject, hitem, f, hf, hbad⟩
    · exact .inl ⟨fun _ => hitem, .inl ⟨c, by rw [hc]; rfl⟩⟩
    · exact .inl ⟨fun h => absurd h hobject, .inr ⟨_, _, by rw [hnone]; rfl⟩⟩
    · exact .inr ⟨fun h => hitem (h hobject), f, by rw [hf]; rfl, hbad⟩
  | create | update | changeStatus =>
    rcases hcontent with ⟨hitem, c, hc⟩ | ⟨hobject, hnone⟩ | ⟨hobject, hitem, hf⟩
    · exact .inl ⟨fun _ => hitem, .inl ⟨some c, hc⟩⟩
    · exact .inl ⟨fun h => absurd h hobject, .inl ⟨none, hnone⟩⟩
    · exact .inr ⟨fun h => hitem (h hobject), hf⟩

end Operation

/-! ## Replies of success -/

/-- Whether an outcome is a reply of success whose body holds a value. -/
def Outcome.Holds (o : Outcome) (v : Value) : Prop :=
  ∃ data, o = .success (.bytes data) ∧ Reply.bodyValue data = .ok v

/-- A reply of success that holds a value decides the call. -/
theorem perform_holds {client : Client} {call : Call} {h : Client.Heading} {request : Request}
    (hprepare : client.prepare call = .ok (h, request)) {o : Outcome} {v : Value} (ho : o.Holds v)
    (rest : Tape) :
    client.perform call (o :: rest) = ⟨.ok v, [h.attempt, .sent request], rest⟩ := by
  obtain ⟨data, rfl, hv⟩ := ho
  rw [Client.perform_of_prepare hprepare]
  apply attempts_over
  rw [Client.afterOutcome, Reply.interpret, hv]

/-! ## Walks -/

namespace Walk

/-- How a walk ends that was given replies with some values. Either all of them are pages to go on
from, and it comes to its end, wants another reply, or cannot make its next request; or the last of
them is not, and stops the walk as badly shaped. -/
inductive Ends (client : Client) (path : String) (parameters : Fields) (size : Value) :
    List Value → Option Fault → Prop
  | complete {read : List Value} (hread : ∀ v ∈ read, v.IsWalkable) :
    Ends client path parameters size read none
  | exhausted {read : List Value} (hread : ∀ v ∈ read, v.IsWalkable) :
    Ends client path parameters size read (some .tapeExhausted)
  | unasked {read : List Value} {offset : ℤ} {f : Fault} (hread : ∀ v ∈ read, v.IsWalkable)
    (hrequest : client.prepare (callAt path parameters size offset) = .error f) :
    Ends client path parameters size read (some f)
  | misshapen {read : List Value} {v : Value} {f : Fault} (hread : ∀ w ∈ read, w.IsWalkable)
    (hv : ¬ v.IsWalkable) (hf : f.IsBadShape) :
    Ends client path parameters size (read ++ [v]) (some f)

section Pages

variable {client : Client} {schema : Value} {path : String} {parameters : Fields} {size : Value}

/-- A page to go on from may come ahead of the others. -/
theorem Ends.cons {read : List Value} {stoppedBy : Option Fault}
    (h : Ends client path parameters size read stoppedBy) {v : Value} (hv : v.IsWalkable) :
    Ends client path parameters size (v :: read) stoppedBy := by
  cases h with
  | complete hread => exact .complete (List.forall_mem_cons.mpr ⟨hv, hread⟩)
  | exhausted hread => exact .exhausted (List.forall_mem_cons.mpr ⟨hv, hread⟩)
  | unasked hread hrequest => exact .unasked (List.forall_mem_cons.mpr ⟨hv, hread⟩) hrequest
  | misshapen hread hw hf =>
    rw [← List.cons_append]
    exact .misshapen (List.forall_mem_cons.mpr ⟨hv, hread⟩) hw hf

/-- A page that cannot be asked for is a fault, and takes no reply. -/
theorem listPage_unasked (hpath : Path.collection schema = .ok path) {o : ℤ} {f : Fault}
    (hrequest : client.prepare (callAt path parameters size o) = .error f) (tape : Tape) :
    ∃ events, client.listPage schema (pageParameters parameters size (.int o)) tape =
      ⟨.error f, events, tape⟩ := by
  obtain ⟨-, hresult, -, hrest⟩ := Client.perform_of_prepare_error hrequest tape
  rcases hrun : client.perform (callAt path parameters size o) tape with ⟨result, events, rest⟩
  rw [hrun] at hresult hrest
  obtain rfl : result = .error f := hresult
  obtain rfl : rest = tape := hrest
  exact ⟨events, listPage_error hpath hrun⟩

variable (client parameters size) in
/-- A walk that is given replies of success takes some of them and ends by their shapes. The
induction is on the replies; each page to go on from leads to the next. -/
theorem pagesFrom_ends (hpath : Path.collection schema = .ok path) {tape : Tape} {vs : List Value}
    (htape : List.Forall₂ Outcome.Holds tape vs) {steps : ℕ} (hsteps : tape.length < steps)
    (o : ℤ) :
    ∃ n delivery events,
      pagesFrom (fun offset => client.listPage schema (pageParameters parameters size offset))
        steps none (.int o) tape = ⟨.ok delivery, events, tape.drop n⟩ ∧
      Ends client path parameters size (vs.take n) delivery.stoppedBy := by
  induction htape generalizing steps o with
  | nil =>
    obtain ⟨steps, rfl⟩ : ∃ n, steps = n + 1 := ⟨steps - 1, by omega⟩
    cases hrequest : client.prepare (callAt path parameters size o) with
    | error f =>
      obtain ⟨events, hfetch⟩ := listPage_unasked hpath hrequest []
      exact ⟨0, _, events, pagesFrom_stopped hfetch, .unasked (List.forall_mem_nil _) hrequest⟩
    | ok prepared =>
      obtain ⟨h, request⟩ := prepared
      have hcall : client.perform (callAt path parameters size o) [] =
          ⟨.error .tapeExhausted, [h.attempt, .sent request], []⟩ := by
        rw [Client.perform_of_prepare hrequest]
        rfl
      exact ⟨0, _, _, pagesFrom_stopped (listPage_error hpath hcall),
        .exhausted (List.forall_mem_nil _)⟩
  | @cons reply v tape vs hv htape ih =>
    obtain ⟨steps, rfl⟩ : ∃ n, steps = n + 1 := ⟨steps - 1, by omega⟩
    rw [List.length_cons] at hsteps
    cases hrequest : client.prepare (callAt path parameters size o) with
    | error f =>
      obtain ⟨events, hfetch⟩ := listPage_unasked hpath hrequest (reply :: tape)
      exact ⟨0, _, events, pagesFrom_stopped hfetch, .unasked (List.forall_mem_nil _) hrequest⟩
    | ok prepared =>
      obtain ⟨h, request⟩ := prepared
      have hfetch := listPage_run hpath (perform_holds hrequest hv tape)
      rcases Page.ofReply_cases v with ⟨-, p, hp, hwalkable⟩ | ⟨hpage, f, hf, hbad⟩
      · rw [hp] at hfetch
        rcases nextOffset_cases o p with ⟨hnumber, hlast | ⟨o', hnext⟩⟩ | ⟨hnumber, hstuck⟩
        · exact ⟨1, _, _, pagesFrom_last hfetch hlast,
            .complete (List.forall_mem_singleton.mpr (hwalkable.mp hnumber))⟩
        · obtain ⟨n, later, more, hlater, hends⟩ := ih (by omega : tape.length < steps) o'
          exact ⟨n + 1, _, _, pagesFrom_next hfetch hnext hlater,
            hends.cons (hwalkable.mp hnumber)⟩
        · exact ⟨1, _, _, pagesFrom_stuck hfetch hstuck,
            .misshapen (List.forall_mem_nil _) (mt hwalkable.mpr hnumber) trivial⟩
      · rw [hf] at hfetch
        exact ⟨1, _, _, pagesFrom_stopped hfetch,
          .misshapen (List.forall_mem_nil _) (fun h => hpage h.1) hbad⟩

end Pages

end Walk

/-! ## Operations and walks -/

/-- An operation whose call is answered by a reply of success gives what it reads in the reply. That
is what it documents, or an unclassified failure, if the reply has the shape that the operation
wants, and a misuse of the reply otherwise. A walk that is given replies of success takes as many as
it wants, and is stopped by a misuse of a reply exactly by the first that is no page to go on from.
-/
theorem reply_shapes_decide (client : Client) (schema : String) :
    (∀ (op : Operation) call h request (o : Outcome) v rest,
      op.call schema = .ok call → client.prepare call = .ok (h, request) → o.Holds v →
      (op.run client schema (o :: rest)).result = op.read schema v ∧
      (op.run client schema (o :: rest)).rest = rest ∧
      ((op.Accepts v ∧ ((∃ a, op.read schema v = .ok a) ∨ ∃ said details,
          op.read schema v = .error (.classified .unclassified said .null details false))) ∨
        (¬ op.Accepts v ∧ ∃ f, op.read schema v = .error f ∧ f.IsBadShape))) ∧
    ∀ (selection : Selection) parameters size (start : ℤ) (tape : Tape) vs,
      selection.compile = .ok parameters →
      (Fields.get parameters "$skip").orElse (.int 0) = .int start →
      List.Forall₂ Outcome.Holds tape vs →
      ∃ n delivery, (client.walk (.text schema) selection size none tape).result = .ok delivery ∧
        (client.walk (.text schema) selection size none tape).rest = tape.drop n ∧
        Walk.Ends client (Path.ofSchema schema) parameters size (vs.take n) delivery.stoppedBy := by
  constructor
  · intro op call h request o v rest hcall hprepare ho
    rw [Operation.run_of_perform hcall (perform_holds hprepare ho rest)]
    exact ⟨rfl, rfl, Operation.read_cases schema op v⟩
  · intro selection parameters size start tape vs hcompile hstart htape
    obtain ⟨n, delivery, events, hrun, hends⟩ := Walk.pagesFrom_ends client parameters size
      (Path.collection_text schema) htape (Nat.lt_succ_self tape.length) start
    refine ⟨n, delivery, ?_, ?_, hends⟩
    · rw [Client.walk, if_neg (by simp), hcompile]
      dsimp only
      rw [hstart, hrun]
    · rw [Client.walk, if_neg (by simp), hcompile]
      dsimp only
      rw [hstart, hrun]

/-- An object without an identifier is no content, and a list stops a walk. -/
theorem reply_shapes_decide_misshapen :
    (∃ f, (Operation.run (Client.ofLocal 0 (.int 1)) "s" (.get "x")
      [.success (.bytes [0x7b, 0x7d])]).result = .error f ∧ f.IsBadShape) ∧
    ∃ delivery f, ((Client.ofLocal 0 (.int 1)).walk (.text "s") .everything (.int 1) none
      [.success (.bytes [0x5b, 0x31, 0x5d])]).result = .ok delivery ∧
        delivery.stoppedBy = some f ∧ f.IsBadShape := by
  constructor
  · have hprepare : (Client.ofLocal 0 (.int 1)).prepare (.plain "GET" "/squidex/content/s/x") =
        .ok (⟨"GET", "http://local/squidex/content/s/x"⟩,
          { Request.ofLocal with address := "http://local/squidex/content/s/x" }) := rfl
    have hbody : Reply.bodyValue [0x7b, 0x7d] = .ok (.dict []) := rfl
    obtain ⟨hresult, -, hcases⟩ := (reply_shapes_decide _ "s").1 (.get "x") _ _ _ _ _ []
      rfl hprepare ⟨_, rfl, hbody⟩
    rw [hresult]
    apply (hcases.resolve_left ?_).2
    rintro ⟨haccepts, -⟩
    obtain ⟨fields, id, hfields, hid⟩ := haccepts ⟨[], rfl⟩
    cases hfields
    cases hid
  · have hbody : Reply.bodyValue [0x5b, 0x31, 0x5d] = .ok (.list [.int 1]) := rfl
    have hnot : ¬ (Value.list [.int 1]).IsWalkable := by
      rintro ⟨hfalsy | ⟨fields, hfields, -⟩, -⟩
      · cases hfalsy
      · cases hfields
    obtain ⟨n, delivery, hresult, hrest, hends⟩ :=
      (reply_shapes_decide (.ofLocal 0 (.int 1)) "s").2 .everything [] (.int 1) 0
        [.success (.bytes [0x5b, 0x31, 0x5d])] [.list [.int 1]] rfl rfl
        (.cons ⟨_, rfl, hbody⟩ .nil)
    -- the walk has taken the reply, and cannot go on from it
    have htaken : [Value.list [.int 1]].take n = [.list [.int 1]] := by
      have hall := List.drop_eq_nil_iff.mp hrest.symm
      exact List.take_of_length_le hall
    rw [htaken] at hends
    have hall : ¬ ∀ v ∈ [Value.list [.int 1]], v.IsWalkable := by
      simpa using hnot
    generalize [Value.list [.int 1]] = read at hends hall
    generalize hstopped : delivery.stoppedBy = stoppedBy at hends
    cases hends with
    | complete hread => exact absurd hread hall
    | exhausted hread => exact absurd hread hall
    | unasked hread => exact absurd hread hall
    | misshapen _ _ hf => exact ⟨delivery, _, hresult, hstopped, hf⟩

end ContentGateway
