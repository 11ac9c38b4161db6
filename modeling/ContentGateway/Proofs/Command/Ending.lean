import Mathlib
import ContentGateway.Proofs.Command.Sent
import ContentGateway.Proofs.Content.Paging
import ContentGateway.Proofs.Content.Quiet
import ContentGateway.Proofs.Json.Lenient
import ContentGateway.Proofs.Json.Writing

/-!
# What a run leaves on the standard output

With nobody watching, the output of a run is settled by its ending. A run that ends well leaves one
line that holds a JSON value, one that ends with a report leaves the line of the report, and any
other leaves nothing. No content of a page that was fetched on the way is seen when a later page
fails: the report is that of the fault, and the fault is that of the one call that failed.

The reason is that a verb prints once, behind everything that can fail but the printing itself, and
that clients are quiet.
-/

namespace ContentGateway.Command

/-! ## Lines -/

/-- Whether an output is one line that holds a JSON value. -/
def IsLine (output : String) (v : Value) : Prop :=
  ∃ line, output = line ++ "\n" ∧ '\n' ∉ line.toList ∧ Json.read line = .ok v

/-- What events show is shown in their order. -/
theorem standardOutput_append (events more : List Event) :
    standardOutput (events ++ more) = standardOutput events ++ standardOutput more := by
  rw [standardOutput, standardOutput, standardOutput, List.map_append, String.join_append]

/-- Quiet events leave nothing on the standard output. -/
theorem standardOutput_of_isQuiet {events : List Event} (h : ∀ e ∈ events, e.IsQuiet) :
    standardOutput events = "" := by
  induction events with
  | nil => rfl
  | cons e events ih =>
    obtain ⟨he, hevents⟩ := List.forall_mem_cons.mp h
    have htext : outputText e = "" := by
      cases e with
      | printed text => exact he.elim
      | _ => rfl
    rw [← List.singleton_append, standardOutput_append, ih hevents]
    simp [standardOutput, htext, String.join]

/-- What is printed with nobody watching is a line that holds the value as it can be read. -/
theorem isLine_of_write {v : Value} {s : String} (h : Json.write .oneLine .lenient v = .ok s) :
    ∃ w, v.asJson = .ok w ∧ IsLine (standardOutput [.printed (s ++ "\n")]) w := by
  obtain ⟨w, hw, hread⟩ := Json.read_write_lenient .oneLine h
  refine ⟨w, hw, s, standardOutput_printed _, Json.newline_not_mem_write .lenient h, ?_⟩
  have := hread "" (by simp)
  rwa [String.append_empty] at this

/-! ## Jobs that print once -/

/-- Whether a job prints one line that holds a JSON value when it succeeds, and nothing when it
fails. -/
def PrintsOnce (t : Job Unit) : Prop := ∀ tape,
  ((t tape).result = .ok () ∧ ∃ v, IsLine (standardOutput (t tape).events) v) ∨
    ∃ f, (t tape).result = .error f ∧ standardOutput (t tape).events = ""

/-- Printing a value prints once. -/
theorem printsOnce_printValue (v : Value) : PrintsOnce (printValue false v) := by
  intro tape
  cases hwrite : Json.write .oneLine .lenient v with
  | ok s =>
    rw [printValue_ok false tape hwrite]
    obtain ⟨w, -, hline⟩ := isLine_of_write hwrite
    exact .inl ⟨rfl, w, hline⟩
  | error f =>
    rw [printValue_error false tape hwrite]
    exact .inr ⟨f, rfl, rfl⟩

/-- A job that prints once still does behind a quiet one. -/
theorem PrintsOnce.behind {α : Type} {first : Job α} {next : α → Job Unit}
    (hfirst : first.IsQuiet) (hnext : ∀ a, PrintsOnce (next a)) : PrintsOnce (first >>= next) := by
  intro tape
  have hquiet := standardOutput_of_isQuiet (hfirst.events tape)
  rcases hrun : first tape with ⟨result, events, rest⟩
  rw [hrun] at hquiet
  cases result with
  | error f =>
    rw [Job.bind_of_error hrun]
    exact .inr ⟨f, rfl, hquiet⟩
  | ok a =>
    have houtput : standardOutput (events ++ (next a rest).events) =
        standardOutput (next a rest).events := by
      rw [standardOutput_append, hquiet, String.empty_append]
    rw [Job.bind_of_ok hrun, Run.behind]
    dsimp only
    rw [houtput]
    exact hnext a rest

section Verbs

variable (client : Client) (input : String) (arguments : Arguments)

/-- A listing prints once, whether it is walked or limited. -/
theorem printsOnce_runList : PrintsOnce (runList client false arguments) := by
  refine .behind (Job.isQuiet_lift _) fun query => ?_
  dsimp only
  rw [if_neg (by simp)]
  split
  · exact .behind (client.isQuiet_listAll _ _) fun items => printsOnce_printValue _
  · exact .behind (client.isQuiet_list _ _) fun page => printsOnce_printValue _

theorem printsOnce_runGet : PrintsOnce (runGet client false arguments) :=
  .behind (client.isQuiet_getContent _ _) fun _ => printsOnce_printValue _

theorem printsOnce_runCreate : PrintsOnce (runCreate client false input arguments) := by
  refine .behind (Job.isQuiet_lift _) fun data => .behind (client.isQuiet_create ..) fun found => ?_
  cases found <;> exact printsOnce_printValue _

theorem printsOnce_runUpdate : PrintsOnce (runUpdate client false input arguments) := by
  refine .behind (Job.isQuiet_lift _) fun data => .behind (client.isQuiet_update ..) fun found => ?_
  cases found <;> exact printsOnce_printValue _

theorem printsOnce_runDelete : PrintsOnce (runDelete client false arguments) :=
  .behind (client.isQuiet_deleteContent ..) fun _ => .behind (Job.isQuiet_lift _) fun _ =>
    printsOnce_printValue _

theorem printsOnce_runAction (action : StatusAction) :
    PrintsOnce (runAction client false action arguments) := by
  refine .behind (client.isQuiet_changeStatus ..) fun found => ?_
  cases found <;> exact printsOnce_printValue _

/-- Whatever is done with contents, with nobody watching it prints once. -/
theorem printsOnce_runVerb {invocation : Invocation} (h : invocation.terminal = false)
    (verb : Verb) : PrintsOnce (runVerb client invocation verb arguments) := by
  rw [runVerb.eq_def, h]
  cases verb with
  | list => exact printsOnce_runList client arguments
  | get => exact printsOnce_runGet client arguments
  | create => exact printsOnce_runCreate client _ arguments
  | update => exact printsOnce_runUpdate client _ arguments
  | delete => exact printsOnce_runDelete client arguments
  | change action => exact printsOnce_runAction client arguments action

end Verbs

/-- A wish for anything but a help text prints one line when it succeeds and nothing when it
fails. -/
theorem printsOnce_fulfil {invocation : Invocation} (h : invocation.terminal = false)
    (own : Arguments) {wish : Wish} (hwish : ∀ text, wish ≠ .help text) :
    PrintsOnce (fulfil invocation own wish) := by
  cases wish with
  | help text => exact absurd rfl (hwish text)
  | query arguments =>
    rw [fulfil, h]
    exact .behind (Job.isQuiet_lift _) fun query => .behind (Job.isQuiet_lift _) fun parameters =>
      printsOnce_printValue _
  | content verb arguments =>
    exact .behind (Job.isQuiet_lift _) fun client => printsOnce_runVerb client arguments h verb

/-! ## Reports -/

/-- A report begins with the message of its fault, and names nothing twice. -/
theorem report?_eq_some {f : Fault} {report : Fields} (h : Failure.report? f = some report) :
    ∃ message rest, f.message = .ok message ∧ report = ("error", .text message) :: rest ∧
      (report.map Prod.fst).Nodup := by
  have hnames : ∀ (name : String) (v : Value), (Failure.whenTruthy name v).map Prod.fst = [] ∨
      (Failure.whenTruthy name v).map Prod.fst = [name] := by
    intro name v
    rw [Failure.whenTruthy]
    split
    · exact .inr rfl
    · exact .inl rfl
  rw [Failure.report?.eq_def] at h
  split at h
  · next kind message status details retryable =>
    cases h
    refine ⟨message, _, rfl, rfl, ?_⟩
    simp only [List.map_cons, List.map_append, List.map_nil, List.cons_append]
    rcases hnames "details" details with hdetails | hdetails <;>
      rcases hnames "status" status with hstatus | hstatus <;> rw [hdetails, hstatus] <;> simp
  · next kind message details =>
    cases h
    refine ⟨message, _, rfl, rfl, ?_⟩
    rw [List.map_cons]
    rcases hnames "details" details with hdetails | hdetails <;> rw [hdetails] <;> simp
  · cases h

/-- Whether an output is the line of the report of a fault: an object with what the report says,
each part as it can be read, that begins with the message as its error. -/
def IsReport (f : Fault) (output : String) : Prop :=
  ∃ report message rest, Failure.report? f = some report ∧ f.message = .ok message ∧
    Value.asJson (.dict report) = .ok (.dict (("error", .text message) :: rest)) ∧
    IsLine output (.dict (("error", .text message) :: rest))

/-- What is written of the report of a fault is the line of that report. -/
theorem isReport_of_write {f : Fault} {report : Fields} (hreport : Failure.report? f = some report)
    {s : String} (h : Json.write .oneLine .lenient (.dict report) = .ok s) :
    IsReport f (standardOutput [.printed (s ++ "\n")]) := by
  obtain ⟨w, hw, hline⟩ := isLine_of_write h
  obtain ⟨message, rest, hmessage, rfl, hnames⟩ := report?_eq_some hreport
  have himage := hw
  rw [Value.asJson] at himage
  obtain ⟨images, himages, himage⟩ := bind_eq_ok.mp himage
  cases himage
  have hnames' : (images.map Prod.fst).Nodup := by rwa [Value.asJsonFields_names himages]
  rw [Fields.ofList_of_nodup hnames'] at hw hline
  rw [Value.asJsonFields, Value.asJson] at himages
  obtain ⟨image, himage, himages⟩ := bind_eq_ok.mp himages
  obtain ⟨more, hmore, himages⟩ := bind_eq_ok.mp himages
  cases himage
  cases himages
  exact ⟨_, message, more, hreport, hmessage, hw, hline⟩

/-! ## Endings -/

/-- Whether arguments end in a help text. -/
def asksForHelp (arguments : List String) : Bool :=
  match readArguments arguments with
  | .ok ⟨_, .help _⟩ => true
  | .error (.help _) => true
  | _ => false

/-- Whether a fault is that of the call of one page, made on the outcomes that are left to it. -/
def IsPageFault (client : Client) (schema : Value) (parameters : Fields) (tape : Tape) (f : Fault) :
    Prop :=
  ∃ place rest, rest <:+ tape ∧ (client.listPage schema
    (Walk.pageParameters parameters Walk.standardPageSize place) rest).result = .error f

/-- A listing without a limit that ends with a report ends with the fault of one page. -/
theorem runList_pageFault {client : Client} {arguments : Arguments} {q : Query}
    {parameters : Fields} (hq : queryOf arguments = .ok q) (hcompile : q.compile = .ok parameters)
    (htop : q.top.isNull = true) {tape : Tape} {f : Fault} {report : Fields}
    (h : (runList client false arguments tape).result = .error f)
    (hreport : Failure.report? f = some report) :
    IsPageFault client (arguments.value "schema") parameters tape f := by
  have hmisfit : ¬ f.IsMisfit := by
    intro hmisfit
    cases f <;> first | exact hmisfit.elim | cases hreport
  have hover : f ≠ .tapeExhausted := by
    rintro rfl
    cases hreport
  rw [runList, hq, Job.ok_bind] at h
  dsimp only at h
  rw [if_neg (by simp), if_pos htop] at h
  rcases hall : client.listAll (arguments.value "schema") (.query q) tape with
    ⟨result, events, rest⟩
  cases result with
  | ok items =>
    -- only the printing can fail here, and that fails with a misfit
    rw [Job.bind_of_ok hall] at h
    cases hwrite : Json.write .oneLine .lenient (listing items (.int items.length)) with
    | ok s =>
      rw [printValue_ok false rest hwrite] at h
      cases h
    | error g =>
      rw [printValue_error false rest hwrite] at h
      cases h
      exact absurd (Json.write_misfit _ _ _ _ hwrite) hmisfit
  | error g =>
    rw [Job.bind_of_error hall] at h
    cases h
    rcases Client.listAll_error client (congrArg Run.result hall) hmisfit hover with
      hquery | ⟨parameters', place, left, hparameters, hleft, hpage⟩
    · cases hcompile.symm.trans hquery
    · cases hcompile.symm.trans hparameters
      exact ⟨place, left, hleft, hpage⟩

/-- A job that prints once ends the program well behind its line, or with the report of its fault
alone, the same as of a job that fails so at once, or with a fault and nothing printed. -/
theorem concluding_settled {t : Job Unit} (h : PrintsOnce t) (tape : Tape) :
    let ran := concluding false t tape
    (ran.result = .ok (.exit 0) ∧ ∃ v, IsLine (standardOutput ran.events) v) ∨
      (∃ f report, ran.result = .ok (.exit 1) ∧ (t tape).result = .error f ∧
        Failure.report? f = some report ∧ IsReport f (standardOutput ran.events) ∧
        standardOutput ran.events =
          standardOutput (concluding false (Job.fail f) tape).events) ∨
      ∃ f, ran.result = .ok (.raised f) ∧ standardOutput ran.events = "" := by
  dsimp only
  have honce := h tape
  rcases hjob : t tape with ⟨result, events, rest⟩
  rw [hjob] at honce
  rcases honce with ⟨hresult, hline⟩ | ⟨f, hresult, hnothing⟩
  · obtain rfl : result = .ok () := hresult
    rw [concluding_ok hjob]
    exact .inl ⟨rfl, hline⟩
  obtain rfl : result = .error f := hresult
  cases hreport : Failure.report? f with
  | none =>
    rw [concluding_raised false hjob hreport]
    exact .inr (.inr ⟨f, rfl, hnothing⟩)
  | some report =>
    cases hwrite : Json.write .oneLine .lenient (.dict report) with
    | error g =>
      rw [concluding_unwritten false hjob hreport hwrite]
      exact .inr (.inr ⟨g, rfl, hnothing⟩)
    | ok s =>
      have hfails : (Job.fail f : Job Unit) tape = ⟨.error f, [], tape⟩ := rfl
      have houtput : standardOutput (events ++ [.printed (s ++ "\n")]) =
          standardOutput [.printed (s ++ "\n")] := by
        rw [standardOutput_append, hnothing, String.empty_append]
      have halone : standardOutput (concluding false (Job.fail f) tape).events =
          standardOutput [.printed (s ++ "\n")] := by
        rw [concluding_reported false hfails hreport hwrite, List.nil_append]
      rw [concluding_reported false hjob hreport hwrite]
      dsimp only
      rw [houtput]
      exact .inr (.inl
        ⟨f, report, rfl, rfl, hreport, isReport_of_write hreport hwrite, halone.symm⟩)

/-- With nobody watching, what a run leaves on the standard output is settled by its ending: one
line of JSON where it ends well, the line of the report where it ends with one, and nothing
otherwise. The report is that of the fault that ended the job, exactly as of a job that fails so at
once; and where a listing without a limit ends so, the call of a single page failed with that
fault. -/
theorem output_settled (invocation : Invocation) (hterminal : invocation.terminal = false)
    (hhelp : asksForHelp invocation.arguments = false) (tape : Tape) :
    let output := standardOutput (run invocation tape).events
    ∃ ending, (run invocation tape).result = .ok ending ∧
      match ending with
      | .exit 0 => ∃ v, IsLine output v
      | .exit 1 => ∃ asked f, readArguments invocation.arguments = .ok asked ∧
          (fulfil invocation asked.own asked.wish tape).result = .error f ∧ IsReport f output ∧
          output = standardOutput (concluding false (Job.fail f) tape).events ∧
          ∀ arguments client q parameters, asked.wish = .content .list arguments →
            openClient invocation.environment asked.own = .ok client →
            queryOf arguments = .ok q → q.compile = .ok parameters → q.top.isNull = true →
            IsPageFault client (arguments.value "schema") parameters tape f
      | .exit 2 => output = ""
      | .exit _ => False
      | .raised _ => output = "" := by
  dsimp only
  rw [asksForHelp] at hhelp
  rw [run]
  cases hread : readArguments invocation.arguments with
  | error refusal =>
    rw [hread] at hhelp
    cases refusal with
    | help text => cases hhelp
    | mistake form message => exact ⟨.exit 2, rfl, rfl⟩
  | ok asked =>
    have hwish : ∀ text, asked.wish ≠ .help text := by
      intro text htext
      obtain ⟨own, wish⟩ := asked
      subst htext
      rw [hread] at hhelp
      cases hhelp
    dsimp only
    rw [hterminal]
    rcases concluding_settled (printsOnce_fulfil hterminal asked.own hwish) tape with
      ⟨hended, hline⟩ | ⟨f, report, hended, hfault, hreport, hshown, halone⟩ | ⟨f, hended, hnothing⟩
    · exact ⟨.exit 0, hended, hline⟩
    · refine ⟨.exit 1, hended, asked, f, rfl, hfault, hshown, halone, ?_⟩
      intro arguments client q parameters hlist hopen hq hcompile htop
      have hrun : (runList client false arguments tape).result = .error f := by
        rw [hlist, fulfil, hopen, Job.ok_bind] at hfault
        rwa [runVerb.eq_def, hterminal] at hfault
      exact runList_pageFault hq hcompile htop hrun hreport
    · exact ⟨.raised f, hended, hnothing⟩

def localClient : Client where
  settings := Settings.standard (.text "http://local/")
  base := ⟨"http://local"⟩
  waiting := .pause

def unknownSchema : Outcome := .refusal (.int 404) "Not Found" (.bytes [])

def unknownSchemaFault : Fault :=
  .classified .notFound "HTTP Error 404: Not Found" (.int 404) .null false

/-- A listing whose first page holds one content of two, and whose second page is refused, ends with
the report of the refusal. -/
theorem output_settled_later_page :
    let ran := run (requesting "a" [] localEnvironment "") [twoItemsReply, unknownSchema]
    ran.result = .ok (.exit 1) ∧ ran.requests.length = 2 ∧
      IsReport unknownSchemaFault (standardOutput ran.events) := by
  let arguments : Arguments := ⟨[("schema", .text "a")], [], none⟩
  let own : Arguments := ⟨[], [], some ("content", ["list", "a"])⟩
  -- the first page is got, and leads to the second request, whose reply stops the walk
  obtain ⟨h, request, hprepare, htimeout⟩ : ∃ h request,
      localClient.prepare { Call.plain "GET" "/squidex/content/a" with
        parameters := Walk.pageParameters [] (.int 100) (.int 0) } = .ok (h, request) ∧
      request.timeout = .int 30 := ⟨_, _, rfl, rfl⟩
  have hfirst : localClient.perform { Call.plain "GET" "/squidex/content/a" with
      parameters := Walk.pageParameters [] (.int 100) (.int 0) } [twoItemsReply, unknownSchema] =
        ⟨.ok (.dict [("total", .int 2), ("items", .list [.dict [("id", .int 1)]])]),
          [h.attempt, .sent request], [unknownSchema]⟩ := by
    rw [Client.perform_of_prepare hprepare, Client.attempts, Client.afterOutcome, htimeout,
      interpret_twoItemsReply]
  obtain ⟨h', request', hsecond⟩ : ∃ h' request', localClient.listPage (.text "a")
      (Walk.pageParameters [] (.int 100) (.int 1)) [unknownSchema] =
        ⟨.error unknownSchemaFault, [Client.Heading.attempt h', .sent request'], []⟩ := ⟨_, _, rfl⟩
  have hstopped : Walk.pagesFrom (fun offset => localClient.listPage (.text "a")
      (Walk.pageParameters [] (.int 100) offset)) 2 none (.int 1) [unknownSchema] =
        ⟨.ok ⟨[], some unknownSchemaFault⟩, [h'.attempt, .sent request'], []⟩ :=
    Walk.pagesFrom_stopped hsecond
  have hcompile : Selection.compile (.query Query.empty) = .ok [] := rfl
  have hwalk : localClient.walk (.text "a") (.query Query.empty) Walk.standardPageSize none
      [twoItemsReply, unknownSchema] =
        ⟨.ok ⟨[.ofFields (.int 1) [("id", .int 1)]] ++ [], some unknownSchemaFault⟩,
          [h.attempt, .sent request] ++ [h'.attempt, .sent request'], []⟩ := by
    rw [Client.walk, if_neg (by simp), hcompile]
    exact Walk.pagesFrom_next (listPage_run rfl hfirst) rfl hstopped
  -- the program asks for this walk and nothing else
  have hq : queryOf arguments = .ok Query.empty := rfl
  have hschema : arguments.value "schema" = .text "a" := rfl
  have hlist : runList localClient false arguments [twoItemsReply, unknownSchema] =
      ⟨.error unknownSchemaFault, [h.attempt, .sent request] ++ [h'.attempt, .sent request'],
        []⟩ := by
    rw [runList, hq, Job.ok_bind]
    refine Job.bind_of_error ?_
    rw [hschema, Client.listAll, Job.bind_of_ok hwalk]
    rfl
  have hread : readArguments ("content" :: "list" :: "a" :: [].map QueryFlag.argument) =
      .ok ⟨own, .content .list arguments⟩ := rfl
  have hopen : openClient localEnvironment own = .ok localClient := rfl
  have hfulfil : fulfil (requesting "a" [] localEnvironment "") own (.content .list arguments) =
      runList localClient false arguments := by
    rw [fulfil, requesting, hopen, Job.ok_bind]
    rfl
  have hrun : run (requesting "a" [] localEnvironment "") [twoItemsReply, unknownSchema] =
      concluding false (runList localClient false arguments) [twoItemsReply, unknownSchema] := by
    rw [run, ← hfulfil, requesting, hread]
  have hended := concluding_reported false hlist rfl rfl
  obtain ⟨ending, hending, hleaves⟩ := output_settled (requesting "a" [] localEnvironment "") rfl
    rfl [twoItemsReply, unknownSchema]
  dsimp only
  rw [hrun, hended] at hending hleaves ⊢
  cases hending
  obtain ⟨asked, f, hasked, hfault, hreport, -⟩ := hleaves
  cases hread.symm.trans hasked
  rw [hfulfil, hlist] at hfault
  cases hfault
  exact ⟨rfl, rfl, hreport⟩

end ContentGateway.Command
