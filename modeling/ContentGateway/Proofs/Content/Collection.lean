import Mathlib
import ContentGateway.Content.Service
import ContentGateway.Proofs.Transport.Attempts
import ContentGateway.Proofs.Transport.Prepare
import ContentGateway.Proofs.Transport.Target

/-!
# Reading a collection

The path of a schema's contents is no address of its own and has no question mark, however the
schema is spelt. So a client with a web address reads it with parameters by one request, which goes
to the base, the path, a question mark and the joined parameters, and comes right behind its notice.
-/

namespace ContentGateway

namespace Path

def ofSchema (schema : String) : String :=
  "/squidex/content/" ++ String.ofList (Text.percent [] schema.toList)

/-- A schema that is a text has a path. -/
theorem collection_text (schema : String) : collection (.text schema) = .ok (ofSchema schema) :=
  rfl

/-- The path of a schema ends in its encoded name. -/
theorem toList_ofSchema (schema : String) : (ofSchema schema).toList =
    "/squidex/content/".toList ++ Text.percent [] schema.toList := by
  unfold ofSchema
  exact String.toList_append.trans (congrArg _ String.toList_ofList)

/-- The path of a schema's contents has no question mark. -/
theorem query_not_mem_ofSchema (schema : String) : '?' ∉ (ofSchema schema).toList := by
  have hquery : Text.isUnreserved '?' = false := by decide
  rw [toList_ofSchema, List.mem_append, not_or]
  refine ⟨by simp, fun h => ?_⟩
  rcases Text.mem_percent h with h | h | h
  · rw [hquery] at h
    cases h
  · exact absurd h List.not_mem_nil
  · cases h

/-- The path of a schema's contents is no web address itself. -/
theorem isWhole_ofSchema (schema : String) : Base.isWhole (ofSchema schema) = false := by
  apply Base.isWhole_eq_false
  rw [toList_ofSchema]
  rfl

end Path

section Parameters

variable {address path : String} {pairs : List (String × String)}

/-- Parameters stand behind the base, the path and a question mark. -/
theorem Base.build_path (hquery : '?' ∉ address.toList) (hpath : isWhole path = false)
    (hpath' : '?' ∉ path.toList) {parameters : Fields}
    (hpresent : Parameter.present parameters = .ok pairs) (hpairs : pairs ≠ [])
    (hencodes : Parameter.unpaired? parameters = none) :
    (ofText address).build path parameters =
      .ok ((ofText address).text ++ path ++ "?" ++ Parameter.join pairs) := by
  obtain ⟨slashes, hslashes, -⟩ := toList_ofText address
  have hlocate : (ofText address).locate path = (ofText address).text ++ path := by
    rw [locate, hpath]
    rfl
  have hseparator : separatorFor ((ofText address).text ++ path) = "?" := by
    rw [separatorFor, if_neg]
    rw [String.toList_append, List.mem_append, not_or]
    refine ⟨fun h => hquery ?_, hpath'⟩
    rw [hslashes]
    exact List.mem_append_left _ h
  rw [build_eq _ _ hpresent hencodes, if_neg hpairs, hlocate, hseparator]

/-- A web address with a path and parameters is the target of its own request. -/
theorem Request.target_path (hwhole : Base.isWhole address) (path : String) (hpairs : pairs ≠ []) :
    target ((Base.ofText address).text ++ path ++ "?" ++ Parameter.join pairs) =
      .ok ((Base.ofText address).text ++ path ++ "?" ++ Parameter.join pairs) := by
  refine target_web ?_ fun c hc => ?_
  · rw [String.toList_append, String.toList_append, String.toList_append, List.append_assoc,
      List.append_assoc]
    exact (Base.isWeb_ofText hwhole).append _
  · rw [String.toList_append, List.getLast?_append_of_ne_nil _ (Parameter.join_ne_nil hpairs)] at hc
    exact Parameter.isQueryChar_of_mem_join (List.mem_of_mem_getLast? hc)

end Parameters

namespace Client

variable {client : Client}

/-- A client without headers of its own reads a path by one request for its address, if that is its
own target. -/
theorem prepare_of_target (hheaders : client.settings.headers = .dict []) {path url : String}
    {parameters : Fields} (hbuild : client.base.build path parameters = .ok url)
    (htarget : Request.target url = .ok url) :
    ∃ h request,
      client.prepare { Call.plain "GET" path with parameters } = .ok (h, request) ∧
      request.method = "GET" ∧ request.address = url := by
  have hmerged : Request.mergedHeaders client.settings [] = .ok Request.defaultHeaders := by
    rw [Request.mergedHeaders, hheaders]
    rfl
  have hbody : Request.bodyFor .null = .ok none := rfl
  exact ⟨_, _, prepare_eq_ok.mpr ⟨url, _, none, url, hbuild, hmerged, hbody, htarget, rfl, rfl⟩,
    rfl, rfl⟩

/-- A client reads a path with parameters by one request for the base, the path and the joined
parameters. -/
theorem prepare_get {address path : String} (hbase : client.base = .ofText address)
    (hheaders : client.settings.headers = .dict []) (hwhole : Base.isWhole address)
    (hquery : '?' ∉ address.toList) (hpath : Base.isWhole path = false)
    (hpath' : '?' ∉ path.toList) {parameters : Fields} {pairs : List (String × String)}
    (hpresent : Parameter.present parameters = .ok pairs) (hpairs : pairs ≠ [])
    (hencodes : Parameter.unpaired? parameters = none) :
    ∃ h request,
      client.prepare { Call.plain "GET" path with parameters } = .ok (h, request) ∧
      request.method = "GET" ∧
      request.address = (Base.ofText address).text ++ path ++ "?" ++ Parameter.join pairs := by
  have hbuild := Base.build_path hquery hpath hpath' hpresent hpairs hencodes
  have htarget := Request.target_path hwhole path hpairs
  generalize (Base.ofText address).text ++ path ++ "?" ++ Parameter.join pairs = url at *
  rw [← hbase] at hbuild
  exact prepare_of_target hheaders hbuild htarget

/-- A call whose request can be made begins with its notice and the request. -/
theorem perform_begins {call : Call} {h : Heading} {request : Request}
    (hprepare : client.prepare call = .ok (h, request)) (tape : Tape) :
    ∃ later, (client.perform call tape).events = h.attempt :: .sent request :: later := by
  rw [perform_of_prepare hprepare]
  cases tape with
  | nil => exact ⟨[], rfl⟩
  | cons outcome tape =>
    rw [attempts]
    split
    · exact ⟨_, rfl⟩
    · exact ⟨_, rfl⟩

/-- A listing of a query begins with the request for its parameters. -/
theorem list_begins {schema : String} {q : Query} {parameters : Fields}
    (hcompile : q.compile = .ok parameters) {h : Heading} {request : Request}
    (hprepare : client.prepare { Call.plain "GET" (Path.ofSchema schema) with parameters } =
      .ok (h, request)) (tape : Tape) :
    ∃ later, (client.list (.text schema) (.query q) tape).events =
      h.attempt :: .sent request :: later := by
  have hlist : client.list (.text schema) (.query q) =
      client.get (Path.ofSchema schema) parameters >>= fun reply => liftM (Page.ofReply reply) := by
    rw [list, Path.collection_text, Job.ok_bind, Selection.compile, hcompile, Job.ok_bind]
  obtain ⟨afterSent, hget⟩ := perform_begins hprepare tape
  obtain ⟨afterGet, hevents⟩ := Job.bind_events (client.get (Path.ofSchema schema) parameters)
    (fun reply => liftM (Page.ofReply reply)) tape
  rw [hlist, hevents, get, hget]
  exact ⟨afterSent ++ afterGet, rfl⟩

/-- A listing of a query whose parameters have no address ends before anything is done. -/
theorem list_of_build_error {schema : String} {q : Query} {parameters : Fields}
    (hcompile : q.compile = .ok parameters) {f : Fault}
    (hbuild : client.base.build (Path.ofSchema schema) parameters = .error f) (tape : Tape) :
    client.list (.text schema) (.query q) tape = ⟨.error f, [], tape⟩ := by
  rw [list, Path.collection_text, Job.ok_bind, Selection.compile, hcompile, Job.ok_bind]
  exact Job.bind_of_error (perform_of_build_error hbuild tape)

end Client

end ContentGateway
