import Mathlib
import ContentGateway.Proofs.Command.Typed
import ContentGateway.Proofs.Content.Collection
import ContentGateway.Proofs.Transport.Started

/-!
# What a query shows is what a listing sends

The flags behind the schema of a listing ask for the same parameters as the flags of `query`. With a
limit among them, and nobody watching, the listing sends them in its first request; where `query`
ends with a fault, the listing ends with the same one before it sends anything.
-/

namespace ContentGateway.Command

/-! ## Flags behind a schema -/

section Schema

variable {entries : List (String × Value)}

/-- A schema is none of what a query is made of. -/
theorem queryOf_schema (schema : Value) (entries : List (String × Value)) :
    queryOf ⟨("schema", schema) :: entries, [], none⟩ = queryOf ⟨entries, [], none⟩ := by
  have hparts : filterParts (("schema", schema) :: entries) = filterParts entries := by
    have hflag : FilterFlag.ofName? "schema" = none := by decide
    rw [filterParts, hflag]
  have hvalue : ∀ label : String, label ≠ "schema" →
      (⟨("schema", schema) :: entries, [], none⟩ : Arguments).value label =
        (⟨entries, [], none⟩ : Arguments).value label := by
    intro label hlabel
    rw [Arguments.value, Arguments.value, Arguments.last?, Arguments.last?, List.reverse_cons,
      List.find?_append, List.find?_cons_of_neg (by simpa using hlabel.symm), List.find?_nil,
      Option.or_none]
  rw [queryOf, queryOf, hvalue _ (by decide), hvalue _ (by decide), hvalue _ (by decide),
    hvalue _ (by decide)]
  dsimp only
  rw [hparts]

/-- No flag of a query stands for the schema. -/
theorem value_schema {flags : List QueryFlag} (h : flags.mapM QueryFlag.entry = .ok entries)
    (schema : Value) :
    (⟨("schema", schema) :: entries, [], none⟩ : Arguments).value "schema" = schema := by
  have hlabels : ∀ o ∈ Grammar.queryOptions, o.label ≠ "schema" := by decide
  have hnone : (entries.reverse.find? fun entry => entry.1 = "schema") = none := by
    rw [List.find?_eq_none]
    intro entry hentry hlabel
    obtain ⟨flag, -, hflag⟩ := mapM_of_mem h (List.mem_reverse.mp hentry)
    refine hlabels flag.option flag.known ?_
    rw [← (QueryFlag.entry_isTyped hflag).1]
    simpa using hlabel
  rw [Arguments.value, Arguments.last?, List.reverse_cons, List.find?_append, hnone]
  rfl

/-- A flag with a limit gives one that is not null. -/
theorem top_isNull {flags : List QueryFlag} (h : flags.mapM QueryFlag.entry = .ok entries)
    (htop : ∃ flag ∈ flags, flag.option.label = "--top") :
    ((⟨entries, [], none⟩ : Arguments).value "--top").isNull = false := by
  obtain ⟨flag, hflag, hlabel⟩ := htop
  obtain ⟨entry, hentry, hgives⟩ := mapM_mem h hflag
  have hmem : ("--top", (⟨entries, [], none⟩ : Arguments).value "--top") ∈ entries :=
    Arguments.value_mem ⟨entry, hentry, (QueryFlag.entry_isTyped hgives).1.trans hlabel⟩
  exact (entries_isTyped h _ hmem).isNull

/-- Flags with a limit that ask for parameters make up a query with a limit. -/
theorem exists_limited {flags : List QueryFlag} (h : flags.mapM QueryFlag.entry = .ok entries)
    (htop : ∃ flag ∈ flags, flag.option.label = "--top") {parameters : Fields}
    (hparameters : parametersOf ⟨entries, [], none⟩ = .ok parameters) :
    ∃ q, queryOf ⟨entries, [], none⟩ = .ok q ∧ q.compile = .ok parameters ∧
      q.top.isNull = false := by
  obtain ⟨q, hq, hcompile⟩ := bind_eq_ok.mp hparameters
  refine ⟨q, hq, hcompile, ?_⟩
  rw [(queryOf_eq_ok.mp hq).2.2.1]
  exact top_isNull h htop

end Schema

/-! ## Runs of a listing -/

/-- A listing of a schema by flags, with nobody watching. -/
def requesting (schema : String) (flags : List QueryFlag) (env : Environment) (input : String) :
    Invocation :=
  ⟨"content" :: "list" :: schema :: flags.map QueryFlag.argument, env, input, false⟩

section Listing

variable {flags : List QueryFlag} {entries : List (String × Value)} {schema address : String}
  {env : Environment}

/-- A listing is what a client from the environment does with the flags. -/
theorem run_listing (h : flags.mapM QueryFlag.entry = .ok entries)
    (hschema : schema.toList.head? ≠ some '-') (henv : env.IsReady address) (input : String)
    (tape : Tape) :
    ∃ client : Client, client.base = .ofText address ∧ client.settings.headers = .dict [] ∧
      run (requesting schema flags env input) tape =
        concluding false (runList client false
          ⟨("schema", .text schema) :: entries, [], none⟩) tape := by
  obtain ⟨own, hread, hown⟩ := readArguments_listing hschema h
  obtain ⟨client, hstart, hbase, hheaders⟩ := Client.start_ok henv
  refine ⟨client, hbase, hheaders, ?_⟩
  rw [run, requesting, hread]
  refine concluding_congr ?_
  rw [fulfil, openClient, hown, hstart, Job.ok_bind]
  rfl

/-- A flag that cannot be read ends a listing as a mistake. -/
theorem run_listing_mistake {message : String}
    (h : flags.mapM QueryFlag.entry = .error (.mistake message))
    (hschema : schema.toList.head? ≠ some '-') (env : Environment) (input : String) (tape : Tape) :
    run (requesting schema flags env input) tape = ⟨.ok (.exit 2), [.complained
      ((Grammar.verb .list).usage ++ (Grammar.verb .list).program ++ ": error: " ++ message ++
        "\n")], tape⟩ := by
  rw [run, requesting, readArguments_listing_error hschema h]
  rfl

variable {client : Client}

/-- With a limit, a listing asks for one page. -/
theorem runList_limited (h : flags.mapM QueryFlag.entry = .ok entries) {q : Query}
    (hq : queryOf ⟨entries, [], none⟩ = .ok q) (htop : q.top.isNull = false) :
    runList client false ⟨("schema", .text schema) :: entries, [], none⟩ =
      client.list (.text schema) (.query q) >>= fun page =>
        printValue false (listing page.items page.total) := by
  rw [runList, queryOf_schema, hq, Job.ok_bind, value_schema h]
  dsimp only
  rw [if_neg (by simp), if_neg (by simp [htop])]

/-- Without a limit, a listing asks for all contents. -/
theorem runList_walked (h : flags.mapM QueryFlag.entry = .ok entries) {q : Query}
    (hq : queryOf ⟨entries, [], none⟩ = .ok q) (htop : q.top.isNull = true) :
    runList client false ⟨("schema", .text schema) :: entries, [], none⟩ =
      client.listAll (.text schema) (.query q) >>= fun items =>
        printValue false (listing items (.int items.length)) := by
  rw [runList, queryOf_schema, hq, Job.ok_bind, value_schema h]
  dsimp only
  rw [if_neg (by simp), if_pos htop]

/-- Flags that ask for no parameters end a listing with the same fault, before anything is sent. -/
theorem runList_error (h : flags.mapM QueryFlag.entry = .ok entries) {f : Fault}
    (hparameters : parametersOf ⟨entries, [], none⟩ = .error f) (tape : Tape) :
    runList client false ⟨("schema", .text schema) :: entries, [], none⟩ tape =
      ⟨.error f, [], tape⟩ := by
  rw [parametersOf] at hparameters
  cases hq : queryOf ⟨entries, [], none⟩ with
  | error g =>
    rw [hq] at hparameters
    cases hparameters
    rw [runList, queryOf_schema, hq]
    rfl
  | ok q =>
    rw [hq] at hparameters
    have hcompile : q.compile = .error f := hparameters
    cases hnull : q.top.isNull with
    | true =>
      have hwalk : client.walk (.text schema) (.query q) Walk.standardPageSize none tape =
          ⟨.ok ⟨[], some f⟩, [], tape⟩ := by
        rw [Client.walk, if_neg (by simp), Selection.compile, hcompile]
      rw [runList_walked h hq hnull]
      refine Job.bind_of_error ?_
      rw [Client.listAll, Job.bind_of_ok hwalk]
      rfl
    | false =>
      rw [runList_limited h hq hnull, Client.list, Path.collection_text, Job.ok_bind,
        Selection.compile, hcompile]
      rfl

/-- A listing by such flags ends as any job that fails so. -/
theorem run_listing_error (h : flags.mapM QueryFlag.entry = .ok entries)
    (hschema : schema.toList.head? ≠ some '-') (henv : env.IsReady address) (input : String)
    (tape : Tape) {f : Fault} (hparameters : parametersOf ⟨entries, [], none⟩ = .error f) :
    run (requesting schema flags env input) tape = concluding false (Job.fail f) tape := by
  obtain ⟨client, -, -, hrun⟩ := run_listing h hschema henv input tape
  rw [hrun]
  exact concluding_congr (runList_error h hparameters tape)

/-- The first request of a listing with a limit asks for the parameters of its flags. -/
theorem run_listing_request (h : flags.mapM QueryFlag.entry = .ok entries)
    (hschema : schema.toList.head? ≠ some '-') (henv : env.IsReady address) (input : String)
    (tape : Tape) (htop : ∃ flag ∈ flags, flag.option.label = "--top") {parameters : Fields}
    (hparameters : parametersOf ⟨entries, [], none⟩ = .ok parameters)
    (hencodes : Parameter.unpaired? parameters = none) :
    ∃ request pairs, (run (requesting schema flags env input) tape).requests.head? = some request ∧
      request.method = "GET" ∧
      request.address = (Base.ofText address).text ++ Path.ofSchema schema ++ "?" ++
        Parameter.join pairs ∧
      pairs ≠ [] ∧
      List.Forall₂ (fun field pair => pair.1 = field.1 ∧ field.2.display = .ok pair.2)
        parameters pairs := by
  obtain ⟨q, hq, hcompile, hnull⟩ := exists_limited h htop hparameters
  obtain ⟨pairs, hpresent, hdisplayed⟩ := present_parametersOf (entries_isTyped h) hparameters
  have hpairs : pairs ≠ [] := by
    rintro rfl
    rw [List.forall₂_nil_right_iff.mp hdisplayed] at hcompile
    exact absurd (Query.mem_compile hcompile List.mem_cons_self hnull) List.not_mem_nil
  obtain ⟨client, hbase, hheaders, hrun⟩ := run_listing h hschema henv input tape
  obtain ⟨heading, request, hprepare, hmethod, haddress⟩ := Client.prepare_get hbase hheaders
    henv.isWhole henv.noQuery (Path.isWhole_ofSchema schema) (Path.query_not_mem_ofSchema schema)
    hpresent hpairs hencodes
  refine ⟨request, pairs, ?_, hmethod, haddress, hpairs, hdisplayed⟩
  -- what the listing does first is what the job around it does first, and so the program
  obtain ⟨afterSent, hlist⟩ := Client.list_begins hcompile hprepare tape
  obtain ⟨afterList, hjob⟩ := Job.bind_events (client.list (.text schema) (.query q))
    (fun page => printValue false (listing page.items page.total)) tape
  obtain ⟨afterJob, hevents⟩ := concluding_events false (runList client false
    ⟨("schema", .text schema) :: entries, [], none⟩) tape
  rw [hrun, Run.requests, hevents, runList_limited h hq hnull, hjob, hlist]
  rfl

/-- With a broken text among its parameters, a listing with a limit ends by it before anything is
sent. -/
theorem run_listing_unencodable (h : flags.mapM QueryFlag.entry = .ok entries)
    (hschema : schema.toList.head? ≠ some '-') (henv : env.IsReady address) (input : String)
    (tape : Tape) (htop : ∃ flag ∈ flags, flag.option.label = "--top") {parameters : Fields}
    (hparameters : parametersOf ⟨entries, [], none⟩ = .ok parameters) {t : Text.Broken}
    (hbroken : Parameter.unpaired? parameters = some t) :
    run (requesting schema flags env input) tape = ⟨.ok (.raised (.unencodable t)), [], tape⟩ := by
  obtain ⟨q, hq, hcompile, hnull⟩ := exists_limited h htop hparameters
  obtain ⟨pairs, hpresent, -⟩ := present_parametersOf (entries_isTyped h) hparameters
  obtain ⟨client, -, -, hrun⟩ := run_listing h hschema henv input tape
  have hbuild := Base.build_unencodable client.base (Path.ofSchema schema) hpresent hbroken
  rw [hrun]
  refine concluding_raised false ?_ rfl
  rw [runList_limited h hq hnull]
  exact Job.bind_of_error (Client.list_of_build_error hcompile hbuild tape)

/-- A query that is shown is what the first request of a listing with the same flags and a limit
carries, unless there is a broken text among its parameters: the address of the request is the base,
the path of the schema, a question mark and a text, and that text is read back as the names and the
shown values of the parameters, in order. With a broken text the listing ends by it and sends
nothing, and shows nothing either. A query that is answered with a report is answered with the same
one by the listing, which sends nothing. -/
theorem listing_sends_shown (hschema : schema.toList.head? ≠ some '-')
    (henv : env.IsReady address) (htop : ∃ flag ∈ flags, flag.option.label = "--top")
    (input : String) (tape : Tape) :
    let shown := run (showing flags env input false) tape
    let listed := run (requesting schema flags env input) tape
    (shown.result = .ok (.exit 0) → ∃ parameters,
      Json.read (standardOutput shown.events) = .ok (.dict parameters) ∧
      (Parameter.unpaired? parameters = none → ∃ request text pairs,
        listed.requests.head? = some request ∧ request.method = "GET" ∧
        request.address = (Base.ofText address).text ++ Path.ofSchema schema ++ "?" ++ text ∧
        Parameter.read? text = some pairs ∧
        List.Forall₂ (fun field pair => pair.1 = field.1 ∧ field.2.display = .ok pair.2)
          parameters pairs) ∧
      ∀ t, Parameter.unpaired? parameters = some t →
        listed = ⟨.ok (.raised (.unencodable t)), [], tape⟩) ∧
    (shown.result = .ok (.exit 1) → listed.result = .ok (.exit 1) ∧
      standardOutput listed.events = standardOutput shown.events ∧ listed.requests = []) := by
  dsimp only
  cases hentries : flags.mapM QueryFlag.entry with
  | error halt =>
    have hresult := run_query_mistake env input false tape hentries
    exact ⟨fun h => absurd (hresult.symm.trans h) nofun,
      fun h => absurd (hresult.symm.trans h) nofun⟩
  | ok entries =>
    cases hparameters : parametersOf ⟨entries, [], none⟩ with
    | ok parameters =>
      obtain ⟨s, hrun, hread⟩ := run_query_ok env input false tape hentries hparameters
      rw [hrun]
      refine ⟨fun _ => ⟨parameters, ?_, fun hencodes => ?_, fun t hbroken => ?_⟩, nofun⟩
      · rw [standardOutput_printed, hread]
      · obtain ⟨request, pairs, hrequest, hmethod, haddress, hpairs, hshown⟩ :=
          run_listing_request hentries hschema henv input tape htop hparameters hencodes
        exact ⟨request, _, pairs, hrequest, hmethod, haddress, Parameter.read?_join hpairs, hshown⟩
      · exact run_listing_unencodable hentries hschema henv input tape htop hparameters hbroken
    | error f =>
      obtain ⟨client, -, -, hlisted⟩ := run_listing hentries hschema henv input tape
      have hsame : run (requesting schema flags env input) tape =
          run (showing flags env input false) tape := by
        rw [hlisted, run_query_error env input false tape hentries hparameters]
        exact concluding_congr (runList_error hentries hparameters tape)
      have hfails : (Job.fail f : Job Unit) tape = ⟨.error f, [], tape⟩ := rfl
      obtain ⟨hresult, reports, hreports⟩ := concluding_error false hfails
      rw [hsame, run_query_error env input false tape hentries hparameters]
      refine ⟨fun h => absurd h hresult, fun h => ⟨h, rfl, ?_⟩⟩
      rw [Run.requests, hreports, List.nil_append, List.filterMap_map]
      exact List.filterMap_eq_nil_iff.mpr fun _ _ => rfl

end Listing

def localEnvironment : Environment := [("SQUIDEX_API_BASE_URL", "http://local/")]

theorem isReady_localEnvironment : localEnvironment.IsReady "http://local/" := by
  have hunset : ∀ {α : Type} (name : String) (read? : String → Option α),
      localEnvironment.get? name = none → localEnvironment.IsNumber name read? := by
    intro α name read? hnone s hs
    rw [hnone] at hs
    cases hs
  exact ⟨rfl, by simp [Base.isWhole], by simp, hunset _ _ rfl, hunset _ _ rfl, hunset _ _ rfl⟩

def greaterThanFlag (value : String) : QueryFlag :=
  ⟨⟨["--gt"], .text⟩, value, .tail _ (.tail _ (.head _))⟩

def topFlag : QueryFlag :=
  ⟨⟨["--top"], .wholeNumber⟩, "5", by simp [Grammar.queryOptions]⟩

/-- A comparison and a limit are sent as they are shown, and a comparison with a text is refused
alike. -/
theorem listing_sends_shown_limited :
    (∃ request text,
      (run (requesting "a/b" [greaterThanFlag "n=3", topFlag] localEnvironment "")
        [.failure (.condition .timedOut [])]).requests.head? = some request ∧
      request.method = "GET" ∧
      request.address = "http://local" ++ "/squidex/content/a%2Fb" ++ "?" ++ text ∧
      Parameter.read? text = some [("$filter", "n gt 3"), ("$top", "5")]) ∧
    (run (requesting "a/b" [greaterThanFlag "n=x", topFlag] localEnvironment "") []).requests =
      [] := by
  have hschema : "a/b".toList.head? ≠ some '-' := by simp
  have htop : ∀ flag, ∃ other ∈ [flag, topFlag], other.option.label = "--top" := fun flag =>
    ⟨topFlag, by simp, by decide⟩
  constructor
  · have hentries : [greaterThanFlag "n=3", topFlag].mapM QueryFlag.entry =
        .ok [("--gt", .text "n=3"), ("--top", .int 5)] := rfl
    have hparameters : parametersOf ⟨[("--gt", .text "n=3"), ("--top", .int 5)], [], none⟩ =
        .ok [("$filter", .text "n gt 3"), ("$top", .int 5)] := rfl
    obtain ⟨s, hrun, hread⟩ := run_query_ok localEnvironment "" false
      [.failure (.condition .timedOut [])] hentries hparameters
    obtain ⟨hsends, -⟩ := listing_sends_shown hschema isReady_localEnvironment
      (htop (greaterThanFlag "n=3")) "" [.failure (.condition .timedOut [])]
    rw [hrun] at hsends
    obtain ⟨parameters, hshown, hsent, -⟩ := hsends rfl
    rw [standardOutput_printed, hread] at hshown
    cases hshown
    obtain ⟨request, text, pairs, hrequest, hmethod, haddress, hpairs, hsame⟩ := hsent rfl
    obtain rfl : pairs = [("$filter", "n gt 3"), ("$top", "5")] := by
      obtain _ | ⟨⟨hfilter, hfilterText⟩, _ | ⟨⟨htop, htopText⟩, _ | _⟩⟩ := hsame
      exact congrArg₂ (fun first second => [first, second])
        (Prod.ext hfilter (Except.ok.inj hfilterText).symm)
        (Prod.ext htop (Except.ok.inj htopText).symm)
    exact ⟨request, text, hrequest, hmethod, haddress, hpairs⟩
  · have hentries : [greaterThanFlag "n=x", topFlag].mapM QueryFlag.entry =
        .ok [("--gt", .text "n=x"), ("--top", .int 5)] := rfl
    have hfault : parametersOf ⟨[("--gt", .text "n=x"), ("--top", .int 5)], [], none⟩ =
        .error (invalid ("--gt expects a number, got: " ++ Text.quoted "x")) := rfl
    have hfails : (Job.fail (invalid ("--gt expects a number, got: " ++ Text.quoted "x")) :
        Job Unit) [] = ⟨.error (invalid ("--gt expects a number, got: " ++ Text.quoted "x")), [],
          []⟩ := rfl
    have hrun := run_query_error localEnvironment "" false [] hentries hfault
    obtain ⟨s, hconcluding, -⟩ := concluding_problem false hfails
    obtain ⟨-, hrefused⟩ := listing_sends_shown hschema isReady_localEnvironment
      (htop (greaterThanFlag "n=x")) "" []
    rw [hrun, hconcluding] at hrefused
    exact (hrefused rfl).2.2

def equalsFlag (value : String) : QueryFlag :=
  ⟨⟨["--eq"], .text⟩, value, .head _⟩

/-- The first half of a surrogate pair without the second. -/
def firstHalf : Text.Broken := ⟨[.half 0], rfl⟩

/-- The escape of half a pair is read as the half. -/
theorem parseValue_firstHalf : parseValue "\"\\ud800\"" = .ok (.unpaired firstHalf) := by
  have hread := Json.read_form (Json.readBy_unpaired firstHalf) (List.forall_mem_nil _)
  have hform : String.ofList (Json.brokenForm firstHalf ++ []) = "\"\\ud800\"" := by decide
  rw [hform] at hread
  rw [parseValue, hread]

/-- The query for a field that is that half, with a limit. -/
def halfQuery : Query :=
  ⟨[.clause ⟨.text "a", .equals, .unpaired firstHalf⟩], none, .int 5, .null, .null⟩

/-- The text of its filter. -/
def halfFilter : Text.Broken :=
  ⟨Text.points "a eq '".toList ++ firstHalf.points ++ Text.points ['\''], by decide⟩

theorem compile_halfQuery :
    halfQuery.compile = .ok [("$filter", .unpaired halfFilter), ("$top", .int 5)] := by
  have hpoints : halfQuery.filterPoints = .ok (some halfFilter.points) := rfl
  rw [Query.compile_of_points hpoints rfl, Value.ofPoints?, Value.ofPoints_broken]
  rfl

/-- A flag with the escape of half a pair asks for a filter that is a broken text. -/
theorem parametersOf_half :
    parametersOf ⟨[("--eq", .text "a=\"\\ud800\""), ("--top", .int 5)], [], none⟩ =
      .ok [("$filter", .unpaired halfFilter), ("$top", .int 5)] := by
  have hne : "a" ≠ "" := by simp
  have hsign : '=' ∉ "a".toList := by simp
  have hassigned : splitAssignment "a=\"\\ud800\"" = .ok ("a", "\"\\ud800\"") :=
    splitAssignment_ok hne hsign "\"\\ud800\""
  have hpart : filterPart (.clause .equals) (.text "a=\"\\ud800\"") =
      .ok (.clause ⟨.text "a", .equals, .unpaired firstHalf⟩) :=
    bind_eq_ok.mpr ⟨_, hassigned, bind_eq_ok.mpr ⟨_, parseValue_firstHalf, rfl⟩⟩
  have hparts : filterParts [("--eq", .text "a=\"\\ud800\""), ("--top", .int 5)] =
      .ok halfQuery.parts :=
    bind_eq_ok.mpr ⟨_, hpart, bind_eq_ok.mpr ⟨_, rfl, rfl⟩⟩
  exact bind_eq_ok.mpr
    ⟨halfQuery, queryOf_eq_ok.mpr ⟨hparts, rfl, rfl, rfl, rfl⟩, compile_halfQuery⟩

/-- An operand that is half of a surrogate pair is shown by its escape, but a listing with it and a
limit ends before it sends anything. -/
theorem shown_unsent :
    let flags := [equalsFlag "a=\"\\ud800\"", topFlag]
    let tape : Tape := [.failure (.condition .timedOut [])]
    (run (showing flags localEnvironment "" false) tape).result = .ok (.exit 0) ∧
      Json.read (standardOutput (run (showing flags localEnvironment "" false) tape).events) =
        .ok (.dict [("$filter", .unpaired halfFilter), ("$top", .int 5)]) ∧
      run (requesting "s" flags localEnvironment "") tape =
        ⟨.ok (.raised (.unencodable halfFilter)), [], tape⟩ := by
  have hentries : [equalsFlag "a=\"\\ud800\"", topFlag].mapM QueryFlag.entry =
      .ok [("--eq", .text "a=\"\\ud800\""), ("--top", .int 5)] := rfl
  obtain ⟨s, hrun, hread⟩ := run_query_ok localEnvironment "" false
    [.failure (.condition .timedOut [])] hentries parametersOf_half
  refine ⟨by rw [hrun], by rw [hrun, standardOutput_printed, hread], ?_⟩
  exact run_listing_unencodable hentries (by simp) isReady_localEnvironment "" _
    ⟨topFlag, by simp, by decide⟩ parametersOf_half rfl

end ContentGateway.Command
