import Mathlib
import ContentGateway.Proofs.Address.Parameters
import ContentGateway.Proofs.Content.Lazy
import ContentGateway.Proofs.Decimal.Whole
import ContentGateway.Proofs.Json.RoundTrip

/-!
# An honest gateway

A gateway that holds a listing reads from the address of a request how many items are asked for and
from which on. It is honest if it answers with these items and with the length of the listing. A run
is answered by a gateway if the outcomes that it takes answer its requests one by one.

A run that is answered honestly never sees anything but replies of success, so it sends each request
once. A listing gives the part that it asked for, and a walk gives the whole rest: each page is
answered at the offset that the pages before have led to.
-/

namespace ContentGateway

/-! ## What a request asks for -/

namespace Request

/-- The parameters behind the question mark of a request. -/
def parameters? (request : Request) : Option (List (String × String)) := do
  let (_, text) ← Text.splitFirst? '?' request.address.toList
  Parameter.read? (String.ofList text)

/-- Whether a number stands under a name in a request. -/
def Asks (request : Request) (name : String) (n : ℕ) : Prop :=
  ∃ pairs text, request.parameters? = some pairs ∧ (name, text) ∈ pairs ∧
    Decimal.readInt? text = some (n : ℤ)

/-- Parameters that were joined behind a question mark are those of the request. -/
theorem parameters?_of_address {request : Request} {front : String} {pairs : List (String × String)}
    (hfront : '?' ∉ front.toList) (hpairs : pairs ≠ [])
    (haddress : request.address = front ++ "?" ++ Parameter.join pairs) :
    request.parameters? = some pairs := by
  have hsplit : request.address.toList = front.toList ++ '?' :: (Parameter.join pairs).toList := by
    rw [haddress, String.toList_append, String.toList_append, List.append_assoc]
    simp
  rw [parameters?, hsplit, Text.splitFirst?_append hfront]
  simp only [Option.bind_eq_bind, Option.bind_some, String.ofList_toList,
    Parameter.read?_join hpairs]

end Request

/-! ## Honest answers -/

/-- Whether an outcome is an honest answer of a gateway that holds a listing: to a request for some
items from an offset on, the items that are there and the length of the listing. -/
def AnswersHonestly (listing : List Value) (request : Request) (answer : Outcome) : Prop :=
  ∀ skip top : ℕ, request.Asks "$skip" skip → request.Asks "$top" top → ∃ fields,
    answer.Holds (.dict fields) ∧ Fields.get fields "total" = .int listing.length ∧
      Fields.get fields "items" = .list ((listing.drop skip).take top)

/-- What a reply holds is a document. -/
theorem Outcome.Holds.isDocument {o : Outcome} {v : Value} (h : o.Holds v) : v.IsDocument := by
  obtain ⟨data, -, hbody⟩ := h
  exact Reply.isDocument_of_bodyValue hbody

/-- Whether a job leaves the network alone: it sends nothing and takes no outcome off the tape. -/
structure Job.IsOffline {α : Type} (t : Job α) : Prop where
  requests : ∀ tape, (t tape).requests = []
  rest : ∀ tape, (t tape).rest = tape

namespace Job

variable {α β : Type}

/-- A pure step leaves the network alone. -/
theorem isOffline_lift (step : Except Fault α) : (liftM step : Job α).IsOffline :=
  ⟨fun _ => rfl, fun _ => rfl⟩

theorem isOffline_pure (a : α) : (pure a : Job α).IsOffline := ⟨fun _ => rfl, fun _ => rfl⟩

theorem isOffline_fail (f : Fault) : (fail f : Job α).IsOffline := ⟨fun _ => rfl, fun _ => rfl⟩

/-- So does a job whose fault is caught. -/
theorem IsOffline.attempt {t : Job α} (h : t.IsOffline) : t.attempt.IsOffline :=
  ⟨h.requests, h.rest⟩

/-- Offline jobs one behind the other are offline. -/
theorem IsOffline.bind {first : Job α} {next : α → Job β} (hfirst : first.IsOffline)
    (hnext : ∀ a, (next a).IsOffline) : (first >>= next).IsOffline :=
  ⟨fun tape =>
      (requests_bind (fun a => (hnext a).requests) first tape).trans (hfirst.requests tape),
    fun tape => (rest_bind (fun a => (hnext a).rest) first tape).trans (hfirst.rest tape)⟩

end Job

/-- Whether the outcomes that a run takes off a tape answer its requests, each the one in its
place. -/
def Run.IsAnswered {α : Type} (gateway : Request → Outcome → Prop) (run : Run α) (tape : Tape) :
    Prop :=
  ∃ answered, tape = answered ++ run.rest ∧ List.Forall₂ gateway run.requests answered

namespace Run.IsAnswered

variable {α β : Type} {gateway : Request → Outcome → Prop} {run : Run α} {tape : Tape}

/-- The request with which a run begins is answered by the first outcome. -/
theorem head (h : run.IsAnswered gateway tape) {heading : Client.Heading} {request : Request}
    {later : List Event} (hbegins : run.events = heading.attempt :: .sent request :: later) :
    ∃ answer rest, tape = answer :: rest ∧ gateway request answer := by
  obtain ⟨answered, rfl, hall⟩ := h
  have hrequests : run.requests = request :: later.filterMap Event.request? :=
    congrArg (List.filterMap Event.request?) hbegins
  rw [hrequests, List.forall₂_cons_left_iff] at hall
  obtain ⟨answer, more, hanswer, -, rfl⟩ := hall
  exact ⟨answer, more ++ run.rest, rfl, hanswer⟩

/-- A run that sends a single request is answered by the answer to it. -/
theorem single {heading : Client.Heading} {request : Request}
    (hevents : run.events = [heading.attempt, .sent request]) (hrest : run.rest = tape)
    {answer : Outcome} (h : gateway request answer) : run.IsAnswered gateway (answer :: tape) := by
  have hrequests : run.requests = [request] :=
    congrArg (List.filterMap Event.request?) hevents
  refine ⟨[answer], by rw [hrest]; rfl, ?_⟩
  rw [hrequests]
  exact .cons h .nil

/-- Behind the first request and its answer, what comes later is answered by what is left. -/
theorem tail {answer : Outcome} (h : run.IsAnswered gateway (answer :: tape)) {request : Request}
    {later : Run β} (hrequests : run.requests = request :: later.requests)
    (hrest : run.rest = later.rest) : later.IsAnswered gateway tape := by
  obtain ⟨answered, htape, hall⟩ := h
  rw [hrequests, List.forall₂_cons_left_iff] at hall
  obtain ⟨first, more, -, hmore, rfl⟩ := hall
  rw [hrest, List.cons_append, List.cons.injEq] at htape
  exact ⟨more, htape.2, hmore⟩

/-- A job that is followed by others which leave the network alone is answered as the whole is. -/
theorem bind_iff {first : Job α} {next : α → Job β} (hnext : ∀ a, (next a).IsOffline) :
    ((first >>= next) tape).IsAnswered gateway tape ↔ (first tape).IsAnswered gateway tape := by
  rw [Run.IsAnswered, Run.IsAnswered, Job.rest_bind (fun a => (hnext a).rest),
    Job.requests_bind fun a => (hnext a).requests]

end Run.IsAnswered

/-! ## Requests of a client -/

namespace Client

variable {client : Client} {address schema : String} {parameters : Fields}
  (hbase : client.base = .ofText address) (hheaders : client.settings.headers = .dict [])
  (hwhole : Base.isWhole address) (hquery : '?' ∉ address.toList)
  (hshow : ∀ field ∈ parameters, field.2.IsShowable)

section Requests

include hbase hheaders hwhole hquery hshow

/-- A request for the contents of a schema can be made if its parameters can be shown. It asks for
the numbers among them, and for no other where a name stands for numbers only. -/
theorem prepare_asking (schema : String) (hset : ∃ field ∈ parameters, field.2.isNull = false) :
    ∃ h request, client.prepare { Call.plain "GET" (Path.ofSchema schema) with parameters } =
        .ok (h, request) ∧
      (∀ name (n : ℕ), (name, .int n) ∈ parameters → request.Asks name n) ∧
      ∀ name, (∀ field ∈ parameters, field.1 = name → ∃ n : ℕ, field.2 = .int n) →
        ∀ n, request.Asks name n → (name, .int n) ∈ parameters := by
  obtain ⟨pairs, hpresent, hshown⟩ := Parameter.present_ok fun field hfield =>
    Parameter.render_ok (hshow field hfield)
  have hpairs : pairs ≠ [] := by
    rw [Ne, Parameter.isShown_eq_nil_iff hshown]
    obtain ⟨field, hfield, hnull⟩ := hset
    exact fun hall => absurd (hall field hfield) (by simp [hnull])
  obtain ⟨h, request, hprepare, -, haddress⟩ := prepare_get hbase hheaders hwhole hquery
    (Path.isWhole_ofSchema schema) (Path.query_not_mem_ofSchema schema) hpresent hpairs
    (Parameter.unpaired?_eq_none hshow)
  have hfront : '?' ∉ ((Base.ofText address).text ++ Path.ofSchema schema).toList := by
    obtain ⟨slashes, hslashes, -⟩ := Base.toList_ofText address
    rw [String.toList_append, List.mem_append, not_or]
    exact ⟨fun hmem => hquery (hslashes ▸ List.mem_append_left _ hmem),
      Path.query_not_mem_ofSchema schema⟩
  have hparameters := Request.parameters?_of_address hfront hpairs haddress
  -- a number is shown by its digits, from which it is read back
  have hread : ∀ {name text : String} {n : ℕ}, (name, .int n) ∈ parameters →
      Parameter.IsShown (name, .int n) (name, text) → Decimal.readInt? text = some (n : ℤ) := by
    intro name text n hmem hshows
    have hsmall : (n : ℤ).natAbs < 10 ^ Decimal.digitLimit := by
      cases hshow _ hmem with
      | int hn => exact hn
    cases hshows with
    | other _ htext => rw [Value.eq_of_wholeText htext, Decimal.readInt?_intText hsmall]
  refine ⟨h, request, hprepare, fun name n hmem => ?_, fun name hnumbers n hasks => ?_⟩
  · obtain ⟨pair, hpair, hshows⟩ := exists_of_forall₂ hshown (List.mem_filter.mpr ⟨hmem, rfl⟩)
    obtain ⟨name', text⟩ := pair
    obtain rfl : name' = name := hshows.name_eq
    exact ⟨pairs, text, hparameters, hpair, hread hmem hshows⟩
  · obtain ⟨pairs', text, hsome, hpair, htext⟩ := hasks
    cases hparameters.symm.trans hsome
    obtain ⟨field, hfield, hshows⟩ := exists_of_forall₂ hshown.flip hpair
    obtain ⟨hmem, -⟩ := List.mem_filter.mp hfield
    obtain ⟨m, hm⟩ := hnumbers field hmem hshows.name_eq.symm
    obtain ⟨name', v⟩ := field
    obtain rfl : name = name' := hshows.name_eq
    obtain rfl : v = .int m := hm
    have hsame := (hread hmem hshows).symm.trans htext
    rw [Option.some.injEq, Nat.cast_inj] at hsame
    exact hsame ▸ hmem

/-- The request of a page asks for its size and its place. -/
theorem prepare_callAt (schema : String) {size offset : ℕ} (hsize : size < 10 ^ Decimal.digitLimit)
    (hoffset : offset < 10 ^ Decimal.digitLimit) :
    ∃ h request, client.prepare (Walk.callAt (Path.ofSchema schema) parameters (.int size) offset) =
        .ok (h, request) ∧ request.Asks "$skip" offset ∧ request.Asks "$top" size := by
  have hnumber : ∀ n : ℕ, n < 10 ^ Decimal.digitLimit → (Value.int n).IsShowable := fun n hn =>
    .int (by simpa using hn)
  have hpage : ∀ field ∈ Walk.pageParameters parameters (.int size) (.int offset),
      field.2.IsShowable := by
    intro field hfield
    rcases Fields.mem_put hfield with heq | hfield
    · exact heq ▸ hnumber offset hoffset
    · rcases Fields.mem_put hfield with heq | hfield
      · exact heq ▸ hnumber size hsize
      · exact hshow field hfield
  have hskip : ("$skip", Value.int offset) ∈
      Walk.pageParameters parameters (.int size) (.int offset) :=
    Fields.mem_of_find? (Fields.find?_put_self _)
  have htop : ("$top", Value.int size) ∈
      Walk.pageParameters parameters (.int size) (.int offset) := by
    refine Fields.mem_of_find? ?_
    rw [Walk.pageParameters, Fields.find?_put_ne (by decide), Fields.find?_put_self]
  obtain ⟨h, request, hprepare, hasks, -⟩ := prepare_asking hbase hheaders hwhole hquery hpage
    schema ⟨_, htop, rfl⟩
  exact ⟨h, request, hprepare, hasks _ _ hskip, hasks _ _ htop⟩

end Requests

/-- A walk on from an offset begins with the request for its page. -/
theorem pagesFrom_begins {size : ℕ} {offset : ℤ} {h : Heading} {request : Request}
    (hprepare : client.prepare (Walk.callAt (Path.ofSchema schema) parameters (.int size) offset) =
      .ok (h, request))
    (steps : ℕ) (limit : Option ℕ) (tape : Tape) :
    ∃ later, (Walk.pagesFrom (client.pageAt schema parameters size) (steps + 1) limit (.int offset)
      tape).events = h.attempt :: .sent request :: later := by
  obtain ⟨later, hperform⟩ := perform_begins hprepare tape
  have hfetch : (client.pageAt schema parameters size (.int offset) tape).events =
      h.attempt :: .sent request :: later := by rw [pageAt_eq, hperform]
  rw [Walk.pagesFrom]
  obtain ⟨more, hevents⟩ := Job.bind_events
    (client.pageAt schema parameters size (.int offset)).attempt _ tape
  exact ⟨later ++ more, hevents.trans (congrArg (· ++ more) hfetch)⟩

/-! ## Listings and walks -/

/-- A reply of success that is read as a page is listed by a single request. -/
theorem list_holds {q : Query} (hcompile : q.compile = .ok parameters) {h : Heading}
    {request : Request}
    (hprepare : client.prepare { Call.plain "GET" (Path.ofSchema schema) with parameters } =
      .ok (h, request))
    {answer : Outcome} {v : Value} (hanswer : answer.Holds v) {page : Page}
    (hpage : Page.ofReply v = .ok page) (rest : Tape) :
    client.list (.text schema) (.query q) (answer :: rest) =
      ⟨.ok page, [h.attempt, .sent request], rest⟩ := by
  rw [list, Path.collection_text, Job.ok_bind, Selection.compile, hcompile, Job.ok_bind, ← hpage]
  exact Job.bind_lift_of_ok (perform_holds hprepare hanswer rest) Page.ofReply

section Answered

variable {listing : List Value} {contents : List Content} {tape : Tape}

/-- A listing that is answered honestly gives the part of the contents that it asks for. The items
there are documents. -/
theorem list_honest (hcontents : listing.mapM Content.ofValue = .ok contents) {q : Query}
    (hcompile : q.compile = .ok parameters) {h : Heading} {request : Request}
    (hprepare : client.prepare { Call.plain "GET" (Path.ofSchema schema) with parameters } =
      .ok (h, request))
    {skip top : ℕ} (hskip : request.Asks "$skip" skip) (htop : request.Asks "$top" top)
    (hanswered : (client.list (.text schema) (.query q) tape).IsAnswered
      (AnswersHonestly listing) tape) :
    (∀ v ∈ (listing.drop skip).take top, v.IsDocument) ∧ ∃ rest,
      client.list (.text schema) (.query q) tape =
        ⟨.ok ⟨.int listing.length, (contents.drop skip).take top⟩, [h.attempt, .sent request],
          rest⟩ := by
  obtain ⟨later, hbegins⟩ := list_begins hcompile hprepare tape
  obtain ⟨answer, rest, rfl, hhonest⟩ := hanswered.head hbegins
  obtain ⟨fields, hholds, htotal, hitems⟩ := hhonest skip top hskip htop
  refine ⟨?_, rest, ?_⟩
  · have hdocument := hholds.isDocument.get "items"
    rw [hitems] at hdocument
    cases hdocument with
    | list hdocuments => exact hdocuments
  · exact list_holds hcompile hprepare hholds (ofReply_eq skip hcontents htotal hitems) rest

include hbase hheaders hwhole hquery hshow

/-- A walk that is answered honestly gives the contents from its offset on. The induction is on its
steps; a page that is not the last leads to the offset behind it. -/
theorem pagesFrom_honest (hcontents : listing.mapM Content.ofValue = .ok contents) {size : ℕ}
    (hsize : 1 ≤ size) (hsmall : size < 10 ^ Decimal.digitLimit)
    (hlength : listing.length < 10 ^ Decimal.digitLimit) {steps : ℕ}
    (hsteps : tape.length < steps) {offset : ℕ} (hoffset : offset < 10 ^ Decimal.digitLimit)
    (hanswered : (Walk.pagesFrom (client.pageAt schema parameters size) steps none (.int offset)
      tape).IsAnswered (AnswersHonestly listing) tape) :
    ∃ events rest, Walk.pagesFrom (client.pageAt schema parameters size) steps none (.int offset)
      tape = ⟨.ok ⟨contents.drop offset, none⟩, events, rest⟩ := by
  induction steps generalizing offset tape with
  | zero => omega
  | succ steps ih =>
    obtain ⟨h, request, hprepare, hskip, htop⟩ := prepare_callAt hbase hheaders hwhole hquery hshow
      schema hsmall hoffset
    obtain ⟨later, hbegins⟩ := pagesFrom_begins hprepare steps none tape
    obtain ⟨answer, rest, rfl, hhonest⟩ := hanswered.head hbegins
    obtain ⟨fields, hholds, htotal, hitems⟩ := hhonest offset size hskip htop
    have hfetch := pageAt_holds hprepare hholds (ofReply_eq offset hcontents htotal hitems) rest
    have hnext := nextOffset_page offset (mapM_length hcontents) hsize
    by_cases hlast : listing.length ≤ offset + size
    · have hall : (contents.drop offset).take size = contents.drop offset := by
        rw [List.take_eq_self_iff, List.length_drop, mapM_length hcontents]
        omega
      rw [if_pos hlast] at hnext
      refine ⟨[h.attempt, .sent request], rest, ?_⟩
      rw [Walk.pagesFrom_last hfetch hnext, hall]
    · rw [if_neg hlast] at hnext
      rw [Walk.pagesFrom_ahead hfetch rfl hnext] at hanswered ⊢
      have hmore : (Walk.pagesFrom (client.pageAt schema parameters size) steps none
          (.int (offset + size : ℕ)) rest).IsAnswered (AnswersHonestly listing) rest :=
        hanswered.tail rfl rfl
      rw [List.length_cons] at hsteps
      obtain ⟨events, left, hlater⟩ := ih (by omega) (by omega) hmore
      have hparts := List.take_append_drop size (contents.drop offset)
      rw [List.drop_drop] at hparts
      refine ⟨[h.attempt, .sent request] ++ events, left, ?_⟩
      rw [hlater, Walk.ahead]
      simp only [Except.map, hparts]

omit hbase hheaders hwhole hquery hshow in
/-- Asking for all contents is answered as the walk is. -/
theorem isAnswered_listAll {gateway : Request → Outcome → Prop} {schema : Value}
    {selection : Selection} : (client.listAll schema selection tape).IsAnswered gateway tape ↔
      (client.walk schema selection Walk.standardPageSize none tape).IsAnswered gateway tape := by
  refine (Run.IsAnswered.bind_iff fun delivery => ?_).trans Iff.rfl
  cases delivery.stoppedBy with
  | some f => exact Job.isOffline_fail f
  | none => exact Job.isOffline_pure _

/-- All contents of a selection, asked of an honest gateway, are those from its offset on. -/
theorem listAll_honest (hcontents : listing.mapM Content.ofValue = .ok contents)
    (hlength : listing.length < 10 ^ Decimal.digitLimit) {selection : Selection}
    (hcompile : selection.compile = .ok parameters) {skip : ℕ}
    (hskip : Fields.get parameters "$skip" = .int skip) (hsmall : skip < 10 ^ Decimal.digitLimit)
    (hanswered : (client.listAll (.text schema) selection tape).IsAnswered
      (AnswersHonestly listing) tape) :
    ∃ events rest, client.listAll (.text schema) selection tape =
      ⟨.ok (contents.drop skip), events, rest⟩ := by
  have hwalk : client.walk (.text schema) selection Walk.standardPageSize none tape =
      Walk.pagesFrom (client.pageAt schema parameters (100 : ℕ)) (tape.length + 1) none (.int skip)
        tape := walk_eq hcompile (.inl hskip) (by simp) tape
  have hwalked := isAnswered_listAll.mp hanswered
  rw [hwalk] at hwalked
  obtain ⟨events, rest, hpages⟩ := pagesFrom_honest hbase hheaders hwhole hquery hshow hcontents
    (by norm_num) (Decimal.lt_of_lt_thousand (by norm_num)) hlength (Nat.lt_succ_self _) hsmall
    hwalked
  refine ⟨events, rest, ?_⟩
  rw [listAll, Job.bind_of_ok (hwalk.trans hpages)]
  simp only [Job.pure_eq, Run.behind, List.append_nil]

end Answered

end Client

end ContentGateway
