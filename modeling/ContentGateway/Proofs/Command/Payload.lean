import Mathlib
import ContentGateway.Proofs.Address.Contents
import ContentGateway.Proofs.Command.Ending
import ContentGateway.Proofs.Transport.Prepare

/-!
# What is shown of a content

A content that a reply describes is shown with its data as the reply has them, kind by kind and in
their order, and with the identifier, the times and the status of the reply. Reading a reply gives
values that can be written, and a written value reads back, on one line or over several; in between,
a content only takes the fields apart and puts them together again.

A reading is one call, and a reply of success ends it. So when the command takes a reply off the
network, whatever was tried before, the reply is what it shows.
-/

namespace ContentGateway

/-- Whether an object shows the content that the fields of a reply describe. -/
structure Content.Shows (fields shown : Fields) : Prop where
  id : shown.find? "id" = fields.find? "id"
  data : shown.find? "data" = fields.find? "data"
  created : shown.find? "created" = some (fields.get "created")
  status : shown.find? "status" = some (fields.get "status")
  version : shown.find? "version" = some ((fields.find? "version").getD (.int 0))

namespace Content

variable {fields d : Fields} {id : Value}

/-- The first of two values that counts is a document if both are. -/
theorem isDocument_orElse {v w : Value} (hv : v.IsDocument) (hw : w.IsDocument) :
    (v.orElse w).IsDocument := by
  rw [Value.orElse]
  split
  · exact hv
  · exact hw

/-- The object of a content can be written where the fields of the reply can. -/
theorem isDocument_toValue (h : (Value.dict fields).IsDocument)
    (hid : fields.find? "id" = some id) : (ofFields id fields).toValue.IsDocument := by
  have hget := h.get
  have hfound : id.IsDocument := by
    have := hget "id"
    rwa [Fields.get, hid] at this
  have hversion : ((Fields.find? "version" fields).getD (.int 0)).IsDocument := by
    have := hget "version"
    rw [Fields.get] at this
    cases hfound : fields.find? "version" with
    | none => exact .int (by norm_num)
    | some v => rwa [hfound] at this
  have hempty : (Value.dict []).IsDocument := .dict List.nodup_nil fun _ hfield =>
    absurd hfield List.not_mem_nil
  rw [toValue]
  refine .dict ?_ ?_
  · split <;> simp
  · have hpending : ∀ field ∈ (if (ofFields id fields).newStatus.truthy then
        [("newStatus", (ofFields id fields).newStatus)] else []), field.2.IsDocument := by
      split
      · exact List.forall_mem_singleton.mpr (isDocument_orElse (hget _) (hget _))
      · exact List.forall_mem_nil _
    rw [List.forall_mem_append]
    refine ⟨?_, hpending⟩
    simp only [List.forall_mem_cons, List.not_mem_nil, false_imp_iff, implies_true, and_true]
    exact ⟨hfound, hget _, isDocument_orElse (hget _) (hget _), isDocument_orElse (hget _) (hget _),
      isDocument_orElse (hget _) (hget _), isDocument_orElse (hget _) hempty, hversion, hget _⟩

/-- The object of a content has the fields of the reply. An object of data is there even if it is
empty. -/
theorem shows_toValue (hid : fields.find? "id" = some id)
    (hdata : fields.find? "data" = some (.dict d)) :
    ∃ shown, (ofFields id fields).toValue = .dict shown ∧ Shows fields shown := by
  have hkept : (ofFields id fields).data = .dict d := by
    rw [ofFields, Fields.get, hdata]
    cases d <;> rfl
  refine ⟨_, rfl, ?_, ?_, rfl, rfl, rfl⟩
  · rw [hid]
    rfl
  · rw [hdata, ← hkept]
    rfl

end Content

/-! ## Replies that end a call -/

section Reply

variable {client : Client} {o : Outcome} {v : Value} {before after : Tape}

/-- A reply of success ends the attempts that take it. By induction on the outcomes before it. -/
theorem attempts_of_rest (h : Client.Heading) (request : Request)
    (ho : Reply.interpret request.timeout o = .ok v) {retries : ℕ}
    (hrest : (client.attempts h request retries (before ++ o :: after)).rest = after) :
    (client.attempts h request retries (before ++ o :: after)).result = .ok v := by
  induction before generalizing retries with
  | nil => rw [List.nil_append, Client.attempts, Client.afterOutcome, ho]
  | cons o' before ih =>
    rw [List.cons_append, Client.attempts] at hrest ⊢
    rcases hnext : client.afterOutcome h retries request.timeout o' with ⟨events, result⟩ | events
    · -- an attempt that is over would leave the reply
      rw [hnext] at hrest
      have hlength := congrArg List.length hrest
      simp only [List.length_append, List.length_cons] at hlength
      omega
    · rw [hnext] at hrest
      exact ih hrest

/-- A reply of success ends the call that takes it. -/
theorem perform_of_rest {call : Call} (ho : ∀ timeout, Reply.interpret timeout o = .ok v)
    (hrest : (client.perform call (before ++ o :: after)).rest = after) :
    (client.perform call (before ++ o :: after)).result = .ok v := by
  cases hprepare : client.prepare call with
  | error f =>
    obtain ⟨-, -, -, hkept⟩ := Client.perform_of_prepare_error hprepare (before ++ o :: after)
    have hlength := congrArg List.length (hkept.symm.trans hrest)
    simp only [List.length_append, List.length_cons] at hlength
    omega
  | ok prepared =>
    obtain ⟨h, request⟩ := prepared
    rw [Client.perform_of_prepare hprepare] at hrest ⊢
    exact attempts_of_rest h request (ho _) hrest

end Reply

namespace Command

/-! ## Reading a content -/

/-- Printing takes nothing off the tape. -/
theorem rest_printValue (terminal : Bool) (v : Value) (tape : Tape) :
    (printValue terminal v tape).rest = tape := by
  cases hwrite : Json.write (layoutFor terminal) .lenient v with
  | ok s => rw [printValue_ok terminal tape hwrite]
  | error f => rw [printValue_error terminal tape hwrite]

/-- The end of the program takes nothing off the tape. -/
theorem rest_concluding (terminal : Bool) (t : Job Unit) (tape : Tape) :
    (concluding terminal t tape).rest = (t tape).rest := by
  rw [concluding]
  refine Job.rest_bind (fun result tape => ?_) t.attempt tape
  rcases result with f | _
  · dsimp only
    cases Failure.report? f with
    | none => rfl
    | some report =>
      dsimp only
      refine (Job.rest_bind (fun result tape => ?_) _ tape).trans
        (rest_printValue terminal (.dict report) tape)
      cases result <;> rfl
  · rfl

section Get

variable {invocation : Invocation} {own arguments : Arguments}
  (hread : readArguments invocation.arguments = .ok ⟨own, .content .get arguments⟩)

include hread

/-- What reading a content takes off the tape is what its one call takes. -/
theorem rest_run_get {client : Client} {path : String}
    (hopen : openClient invocation.environment own = .ok client)
    (hpath : Path.item (arguments.value "schema") (arguments.value "content_id") = .ok path)
    (tape : Tape) : (run invocation tape).rest = (client.get path [] tape).rest := by
  rw [run, hread]
  dsimp only
  rw [rest_concluding, fulfil, hopen, Job.ok_bind]
  have hprint : (runVerb client invocation .get arguments tape).rest =
      (client.getContent (arguments.value "schema") (arguments.value "content_id") tape).rest :=
    Job.rest_bind (fun c tape => rest_printValue _ _ tape) _ tape
  rw [hprint, Client.getContent, hpath, Job.ok_bind]
  refine Job.rest_bind (fun reply tape => ?_) _ tape
  cases Content.ofReply reply with
  | error f => rfl
  | ok found =>
    rw [Job.ok_bind]
    cases found with
    | some c => rfl
    | none =>
      dsimp only
      cases Client.noContent (arguments.value "schema") (arguments.value "content_id") <;> rfl

/-- Where reading a content takes something off the tape, there is a client and a path for it. -/
theorem run_get_asks {tape : Tape} (htape : (run invocation tape).rest ≠ tape) :
    ∃ client path, openClient invocation.environment own = .ok client ∧
      Path.item (arguments.value "schema") (arguments.value "content_id") = .ok path := by
  rw [run, hread] at htape
  dsimp only at htape
  rw [rest_concluding, fulfil] at htape
  cases hopen : openClient invocation.environment own with
  | error f =>
    rw [hopen] at htape
    exact absurd rfl htape
  | ok client =>
    cases hpath : Path.item (arguments.value "schema") (arguments.value "content_id") with
    | ok path => exact ⟨client, path, rfl, rfl⟩
    | error f =>
      have hprint : (runVerb client invocation .get arguments tape).rest =
          (client.getContent (arguments.value "schema") (arguments.value "content_id") tape).rest :=
        Job.rest_bind (fun c tape => rest_printValue _ _ tape) _ tape
      rw [hopen, Job.ok_bind, hprint, Client.getContent, hpath] at htape
      exact absurd rfl htape

/-- A call that is answered with a content shows it. -/
theorem run_get_ok {client : Client} {path : String} {tape rest : Tape} {events : List Event}
    {fields : Fields} {id : Value} {s : String}
    (hopen : openClient invocation.environment own = .ok client)
    (hpath : Path.item (arguments.value "schema") (arguments.value "content_id") = .ok path)
    (hget : client.get path [] tape = ⟨.ok (.dict fields), events, rest⟩)
    (hid : fields.find? "id" = some id)
    (hwrite : Json.write (layoutFor invocation.terminal) .lenient
      (Content.ofFields id fields).toValue = .ok s) :
    run invocation tape = ⟨.ok (.exit 0), events ++ [.printed (s ++ "\n")], rest⟩ := by
  have hreply : Content.ofReply (.dict fields) = .ok (some (Content.ofFields id fields)) := by
    rw [Content.ofReply, Content.ofValue, hid]
    rfl
  have hcontent : client.getContent (arguments.value "schema") (arguments.value "content_id") tape =
      ⟨.ok (Content.ofFields id fields), events, rest⟩ := by
    rw [Client.getContent, hpath, Job.ok_bind, Job.bind_of_ok hget, hreply, Job.ok_bind]
    simp only [Job.pure_eq, Run.behind, List.append_nil]
  rw [run, hread]
  refine concluding_ok ?_
  rw [fulfil, hopen, Job.ok_bind]
  show runGet client invocation.terminal arguments tape = _
  rw [runGet, Job.bind_of_ok hcontent, printValue_ok _ _ hwrite]
  rfl

end Get

/-! ## The plain command -/

def reading (schema id : String) (env : Environment) (input : String) (terminal : Bool) :
    Invocation :=
  ⟨["content", "get", schema, id], env, input, terminal⟩

/-- In an environment that is ready, the command takes a reply of success off the network. -/
theorem rest_reading {schema id address : String} {env : Environment}
    (hschema : schema.toList.head? ≠ some '-') (hid : id.toList.head? ≠ some '-')
    (henv : env.IsReady address) (input : String) (terminal : Bool) {o : Outcome} {v : Value}
    (ho : ∀ timeout, Reply.interpret timeout o = .ok v) (after : Tape) :
    ∃ own arguments, readArguments ["content", "get", schema, id] =
        .ok ⟨own, .content .get arguments⟩ ∧
      (run (reading schema id env input terminal) (o :: after)).rest = after := by
  obtain ⟨own, hread, hown⟩ := readArguments_get hschema hid
  obtain ⟨client, hstart, hbase, hheaders⟩ := Client.start_ok henv
  obtain ⟨path, hpath, -⟩ := (Path.Target.item schema id).path_ok
  -- the address of the content is the target of its request
  obtain ⟨hhead, -⟩ := Path.Target.path_chars hpath
  have hbuild : client.base.build path [] = .ok ((Base.ofText address).text ++ path) := by
    rw [Base.build_nil, Base.locate, Base.isWhole_eq_false hhead, hbase]
    rfl
  have htarget : Request.target ((Base.ofText address).text ++ path) =
      .ok ((Base.ofText address).text ++ path) := by
    have hne : path.toList ≠ [] := by
      intro hnil
      rw [hnil] at hhead
      cases hhead
    refine Request.target_of_isWeb ?_ fun c hc => ?_
    · rw [String.toList_append]
      exact (Base.isWeb_ofText henv.isWhole).append _
    · rw [String.toList_append, List.getLast?_append_of_ne_nil _ hne] at hc
      have hmem := List.mem_of_mem_getLast? hc
      exact ⟨Request.isBlank_eq_false (Path.Target.path_visible hpath c hmem),
        ((Path.Target.path_chars hpath).2 c hmem).2⟩
  obtain ⟨h, request, hprepare, -⟩ := Client.prepare_of_target hheaders hbuild htarget
  have hget : (client.get path [] (o :: after)).rest = after := by
    rw [Client.get, Client.perform_of_prepare hprepare, Client.attempts, Client.afterOutcome, ho]
  have hopen : openClient env own = .ok client := by rw [openClient, hown, hstart]
  have hasked : readArguments (reading schema id env input terminal).arguments = _ := hread
  have hrun := rest_run_get hasked hopen hpath (o :: after)
  exact ⟨own, _, hread, hrun.trans hget⟩

/-! ## The whole -/

/-- A body whose text is read as a value gives the value. -/
theorem bodyValue_of_read {data : List UInt8} {cs : List Char} {v : Value}
    (hdecode : Text.decode data = .ok cs) (hread : Json.read (String.ofList cs) = .ok v) :
    Reply.bodyValue data = .ok v := by
  have hne : data ≠ [] := by
    rintro rfl
    cases hdecode
    rw [String.ofList_nil] at hread
    cases hread
  rw [Reply.bodyValue, if_neg (by simpa using hne), hdecode]
  dsimp only
  rw [hread]

/-- A content whose data hold a fraction ahead of a whole number. -/
def mixedText : List Char :=
  ['\x7b', '"', 'i', 'd', '"', ':', '"', 'i', '"', ',', '"', 'd', 'a', 't', 'a', '"', ':',
    '\x7b', '"', 'b', '"', ':', '1', '.', '0', ',', '"', 'a', '"', ':', '1', '\x7d', '\x7d']

def mixedReply : List UInt8 :=
  [0x7b, 0x22, 0x69, 0x64, 0x22, 0x3a, 0x22, 0x69, 0x22, 0x2c, 0x22, 0x64, 0x61, 0x74, 0x61,
    0x22, 0x3a, 0x7b, 0x22, 0x62, 0x22, 0x3a, 0x31, 0x2e, 0x30, 0x2c, 0x22, 0x61, 0x22, 0x3a,
    0x31, 0x7d, 0x7d]

end Command

end ContentGateway
