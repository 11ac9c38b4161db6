import Mathlib
import ContentGateway.Proofs.Transport.Copies
import ContentGateway.Proofs.Value.Given

/-!
# The headers of a request

Headers come from three sources, the defaults, the settings and the call, and each later source is
meant to be preferred. The sources are put together under the names that they use, so a spelling of
a name keeps the place in which it first came up, and takes the value that was given for it last.
Only then do the names take their one spelling, and of those that become equal the last place
counts. So what is sent under a name is the last value of its *newest* spelling, the one that came
up last. That is the value of the preferred source if the header that was given last is spelled so,
and may be that of another one if an older spelling was used again.
-/

namespace ContentGateway

namespace Request

/-! ## Sources -/

/-- The headers that become those of a name. -/
def underName (name : String) (headers : Fields) : Fields :=
  headers.filter fun header => headerName header.1 = name

/-- The header of a name that was given last. -/
def lastHeader? (name : String) (headers : Fields) : Option (String × Value) :=
  (underName name headers).getLast?

/-- The value of a header by the rule that later sources are preferred, and later headers of a
source. -/
def preferred (configured own : Fields) (name : String) : Option Value :=
  ((lastHeader? name own).or ((lastHeader? name configured).or
    (lastHeader? name defaultHeaders))).map Prod.snd

/-- The headers of all sources, one behind the other. -/
def sources (configured own : Fields) : Fields := defaultHeaders ++ configured ++ own

/-- The spelling of a name that came up last. -/
def newestSpelling? (name : String) (headers : Fields) : Option String :=
  ((headers.map Prod.fst).eraseDups.filter fun spelling => headerName spelling = name).getLast?

variable {configured own : Fields} {name : String}

/-- Of two lists of headers, the later one has the last word. -/
theorem lastHeader?_append (name : String) (headers more : Fields) :
    lastHeader? name (headers ++ more) = (lastHeader? name more).or (lastHeader? name headers) := by
  rw [lastHeader?, underName, List.filter_append, List.getLast?_append]
  rfl

/-- The preferred header is the last one of all sources. -/
theorem preferred_eq (configured own : Fields) (name : String) :
    preferred configured own name = (lastHeader? name (sources configured own)).map Prod.snd := by
  rw [preferred, sources, lastHeader?_append, lastHeader?_append]

/-- The headers that are merged are those of all sources, each name once. -/
theorem mergedHeaders_eq {settings : Settings} (h : settings.headers = .dict configured)
    (own : Fields) : mergedHeaders settings own = .ok (Fields.ofList (sources configured own)) := by
  have hdefault : Fields.ofList defaultHeaders = defaultHeaders :=
    Fields.ofList_of_nodup (by decide)
  rw [mergedHeaders, h, sources, Fields.ofList_append, Fields.ofList_append, hdefault]

/-! ## Spellings -/

/-- Under the one spelling of a name stands the last header that becomes one of the name. -/
theorem find?_spelled (name : String) (headers : Fields) :
    (spelled headers).find? name = (lastHeader? name headers).map Prod.snd := by
  rw [spelled, Fields.find?_ofList, Fields.lastGiven, List.filter_map, List.getLast?_map,
    Option.map_map]
  rfl

/-- Of headers that are put together the last one of a name has its newest spelling, and the value
that was given for that spelling last. -/
theorem lastHeader?_ofList (name : String) (headers : Fields) :
    (lastHeader? name (Fields.ofList headers)).map Prod.snd =
      (newestSpelling? name headers).bind fun spelling => Fields.lastGiven spelling headers := by
  have hspelling : newestSpelling? name headers =
      (lastHeader? name (Fields.ofList headers)).map Prod.fst := by
    rw [newestSpelling?, ← Fields.names_ofList, List.filter_map, List.getLast?_map]
    rfl
  rw [hspelling]
  cases hlast : lastHeader? name (Fields.ofList headers) with
  | none => rfl
  | some header =>
    have hmem : header ∈ Fields.ofList headers :=
      (List.mem_filter.mp (List.mem_of_getLast? hlast)).1
    have hfound := Fields.find?_of_mem (Fields.nodup_ofList headers) hmem
    rw [Fields.find?_ofList] at hfound
    exact hfound.symm

/-- A header that was given last is the last of its spelling. -/
theorem lastGiven_of_lastHeader {headers : Fields} {header : String × Value}
    (h : lastHeader? name headers = some header) :
    Fields.lastGiven header.1 headers = some header.2 := by
  obtain ⟨front, hfront⟩ := List.getLast?_eq_some_iff.mp h
  have hname : headerName header.1 = name := by
    have hmem : header ∈ underName name headers := List.mem_of_getLast? h
    exact of_decide_eq_true (List.mem_filter.mp hmem).2
  -- the headers of the spelling are among those of the name
  have hspelling : headers.filter (fun field => field.1 = header.1) =
      (underName name headers).filter fun field => field.1 = header.1 := by
    rw [underName, List.filter_filter]
    refine List.filter_congr fun field _ => ?_
    by_cases hfield : field.1 = header.1
    · simp [hfield, hname]
    · simp [hfield]
  rw [Fields.lastGiven, hspelling, hfront, List.filter_append,
    List.filter_cons_of_pos (by simp), List.filter_nil, List.getLast?_concat, Option.map_some]

/-! ## Requests -/

/-- Putting headers in the order of their names changes nothing under a name. -/
theorem find?_sorted {headers : Fields} (h : (headers.map Prod.fst).Nodup) (name : String) :
    (sorted headers).find? name = headers.find? name :=
  Fields.find?_perm h (List.mergeSort_perm _ _).symm name

end Request

namespace Client

variable {client : Client} {call : Call} {h : Heading} {request : Request} {configured : Fields}

/-- The headers of the request of a call are those of all sources under their one spelling. -/
theorem headers_of_prepare (hconfigured : client.settings.headers = .dict configured)
    (hprepare : client.prepare call = .ok (h, request)) : request.headers = Request.sorted
      (Request.spelled (Fields.ofList (Request.sources configured call.headers))) := by
  obtain ⟨_, headers, _, _, -, hheaders, -, -, -, rfl⟩ := prepare_eq_ok.mp hprepare
  rw [Request.mergedHeaders_eq hconfigured] at hheaders
  cases hheaders
  rfl

/-- Every request that a call sends has each header once. Under its name stands the value that was
given last for the newest spelling of the name, over the defaults, the settings and the call in this
order, and no other header is there. If the header of the name that was given last has the newest
spelling, that is the value of the preferred source. -/
theorem sent_headers (hconfigured : client.settings.headers = .dict configured) {tape : Tape}
    (hsent : request ∈ (client.perform call tape).requests) :
    (request.headers.map Prod.fst).Nodup ∧ ∀ name,
      request.headers.find? name =
        (Request.newestSpelling? name (Request.sources configured call.headers)).bind
          (Fields.lastGiven · (Request.sources configured call.headers)) ∧
      (Request.newestSpelling? name (Request.sources configured call.headers) =
          (Request.lastHeader? name (Request.sources configured call.headers)).map Prod.fst →
        request.headers.find? name = Request.preferred configured call.headers name) := by
  obtain ⟨h, hprepare⟩ := prepare_of_sent hsent
  have hheaders := headers_of_prepare hconfigured hprepare
  generalize hall : Request.sources configured call.headers = all at *
  have hnames : ((Request.spelled (Fields.ofList all)).map Prod.fst).Nodup :=
    Fields.nodup_ofList _
  have hfind : ∀ name, request.headers.find? name =
      (Request.newestSpelling? name all).bind (Fields.lastGiven · all) := by
    intro name
    rw [hheaders, Request.find?_sorted hnames, Request.find?_spelled, Request.lastHeader?_ofList]
  refine ⟨?_, fun name => ⟨hfind name, fun hnewest => ?_⟩⟩
  · rw [hheaders]
    exact ((List.mergeSort_perm _ _).map Prod.fst).nodup_iff.mpr hnames
  · rw [hfind, hnewest, Request.preferred_eq, hall]
    cases hlast : Request.lastHeader? name all with
    | none => rfl
    | some header => exact Request.lastGiven_of_lastHeader hlast

end Client

def Client.ofLocalHeaders (configured : Fields) : Client where
  settings := { Settings.standard (.text "http://local") with headers := .dict configured }
  base := ⟨"http://local"⟩
  waiting := .pause

def Call.ofLocalHeaders (own : Fields) : Call :=
  { Call.plain "GET" "/x" with headers := own }

/-- The call with headers can be made, and they are merged under their one spelling. -/
theorem Client.prepare_ofLocalHeaders (configured own : Fields) :
    (Client.ofLocalHeaders configured).prepare (.ofLocalHeaders own) =
      .ok (⟨"GET", "http://local/x"⟩, { Request.ofLocal with
        headers := Request.sorted (Request.spelled
          (Fields.ofList (Request.sources configured own))) }) := by
  have haddress : (ofLocalHeaders configured).base.build "/x" [] = .ok "http://local/x" := rfl
  have hheaders : Request.mergedHeaders (ofLocalHeaders configured).settings own =
      .ok (Fields.ofList (Request.sources configured own)) := Request.mergedHeaders_eq rfl own
  have hbody : Request.bodyFor .null = .ok none := rfl
  have htarget : Request.target "http://local/x" = .ok "http://local/x" := rfl
  exact prepare_eq_ok.mpr ⟨_, _, _, _, haddress, hheaders, hbody, htarget, rfl, rfl⟩

/-- A call names a header as the defaults do and the settings name it otherwise: the value of the
settings is sent. -/
theorem Client.sent_headers_older_spelling :
    let configured : Fields := [("accept", .text "text/plain")]
    let own : Fields := [("Accept", .text "text/csv")]
    ∃ request ∈ ((Client.ofLocalHeaders configured).perform (.ofLocalHeaders own)
        [.success (.bytes [])]).requests,
      request.headers.find? "Accept" = some (.text "text/plain") ∧
      request.headers.find? "Content-type" = some (.text "application/json") ∧
      Request.preferred configured own "Accept" = some (.text "text/csv") := by
  intro configured own
  have hprepare := prepare_ofLocalHeaders configured own
  generalize Request.sorted _ = headers at hprepare
  obtain ⟨m, hcopies⟩ := perform_copies _ _ _ hprepare [.success (.bytes [])]
  have hsent : { Request.ofLocal with headers } ∈ ((Client.ofLocalHeaders configured).perform
      (.ofLocalHeaders own) [.success (.bytes [])]).requests := by
    rw [hcopies]
    exact List.mem_replicate.mpr ⟨m.succ_ne_zero, rfl⟩
  have hconfigured : (ofLocalHeaders configured).settings.headers = .dict configured := rfl
  obtain ⟨-, hfind⟩ := sent_headers hconfigured hsent
  refine ⟨_, hsent, ?_, ?_, rfl⟩
  · rw [(hfind "Accept").1]
    rfl
  · rw [(hfind "Content-type").1]
    rfl

end ContentGateway
