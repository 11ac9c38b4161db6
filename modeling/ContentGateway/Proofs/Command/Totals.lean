import Mathlib
import ContentGateway.Proofs.Command.Payload
import ContentGateway.Proofs.Command.Typed
import ContentGateway.Proofs.Content.Gateway

/-!
# The total of a listing

With nobody watching, a listing without a limit is walked to its end, and one with a limit asks for
one page. A gateway that answers honestly gives both the same contents if the limit is not below the
length of what it holds. The totals are another matter: behind a walk the contents are counted, and
with a limit the total of the page is printed, which counts what was skipped too. So the two
outputs part as soon as anything is skipped.
-/

namespace ContentGateway

/-- A content can be written in a listing where the fields of the reply can. -/
theorem Content.isDocument_summary {v : Value} {c : Content} (h : v.IsDocument)
    (hc : Content.ofValue v = .ok c) : c.summary.IsDocument := by
  have hitem : v.IsItem := by
    rcases ofValue_cases v with ⟨hitem, -⟩ | ⟨-, f, hf, -⟩
    · exact hitem
    · cases hf.symm.trans hc
  obtain ⟨fields, id, rfl, hid⟩ := hitem
  rw [ofValue, hid] at hc
  cases hc
  -- what a listing shows is part of what is shown of a single content
  have hfields := isDocument_toValue h hid
  rw [toValue] at hfields
  cases hfields with
  | dict _ hshown =>
    simp only [List.forall_mem_append, List.forall_mem_cons] at hshown
    obtain ⟨⟨hid, -, -, hmodified, -, hdata, hversion, hstatus, -⟩, -⟩ := hshown
    refine .dict (by simp) ?_
    simp only [List.forall_mem_cons]
    exact ⟨hid, hstatus, hversion, hmodified, hdata, List.forall_mem_nil _⟩

namespace Command

/-! ## A limit behind other flags -/

/-- A limit is none of the members of a filter. -/
theorem filterParts_append_top (entries : List (String × Value)) (v : Value) :
    filterParts (entries ++ [("--top", v)]) = filterParts entries := by
  induction entries with
  | nil => rfl
  | cons entry entries ih =>
    rw [List.cons_append, filterParts, filterParts, ih]

/-- A limit behind other flags is set in the query that they ask for. -/
theorem queryOf_append_top (entries : List (String × Value)) (v : Value) :
    queryOf ⟨entries ++ [("--top", v)], [], none⟩ =
      (queryOf ⟨entries, [], none⟩).map fun q => q.set (.top v) := by
  rw [queryOf, queryOf, value_append, value_append, value_append, value_append,
    if_neg (by simp), if_pos rfl, if_neg (by simp), if_neg (by simp)]
  dsimp only
  rw [filterParts_append_top]
  cases filterParts entries with
  | error f => rfl
  | ok parts =>
    simp only [bind, Except.bind]
    cases sortOrder ((⟨entries, [], none⟩ : Arguments).value "--orderby") <;> rfl

/-- Whether flags ask for parameters that can be sent: each can be read, the query that they ask for
compiles, and no parameter is a broken text. -/
def AskFor (flags : List QueryFlag) : Prop :=
  ∃ entries parameters, flags.mapM QueryFlag.entry = .ok entries ∧
    parametersOf ⟨entries, [], none⟩ = .ok parameters ∧ Parameter.unpaired? parameters = none

/-- A limit behind other flags does not decide whether these ask for parameters. -/
theorem failAlike_limited (entries : List (String × Value)) (v : Value) :
    FailAlike (parametersOf ⟨entries, [], none⟩)
      (parametersOf ⟨entries ++ [("--top", v)], [], none⟩) := by
  rw [parametersOf, parametersOf, queryOf_append_top]
  cases queryOf ⟨entries, [], none⟩ with
  | error f => exact failAlike_rfl _
  | ok q => exact q.compile_set_top v

/-- The limit is no broken text, and it stands behind the parameters that may be one. -/
theorem unpaired?_limited {entries : List (String × Value)} {n : ℤ}
    {parameters parameters' : Fields}
    (h : parametersOf ⟨entries, [], none⟩ = .ok parameters)
    (h' : parametersOf ⟨entries ++ [("--top", .int n)], [], none⟩ = .ok parameters')
    (htop : (⟨entries, [], none⟩ : Arguments).value "--top" = .null) :
    Parameter.unpaired? parameters' = Parameter.unpaired? parameters := by
  obtain ⟨q, hq, hcompile⟩ := bind_eq_ok.mp h
  have hcompile' : (q.set (.top (.int n))).compile = .ok parameters' := by
    rw [parametersOf, queryOf_append_top, hq] at h'
    exact h'
  have hnull : q.top = .null := (queryOf_eq_ok.mp hq).2.2.1.trans htop
  obtain ⟨filter?, order?, hfilter, horder, rfl⟩ := Query.compile_eq_ok hcompile
  have hlimited := Query.compile_of_points (q := q.set (.top (.int n))) hfilter horder
  obtain rfl := Except.ok.inj (hcompile'.symm.trans hlimited)
  have hint : Parameter.unpaired? (Query.optional "$top" (.int n)) = none := rfl
  have hnothing : Query.optional "$top" .null = [] := rfl
  rw [Parameter.unpaired?] at hint
  rw [Query.filter_candidates, Query.filter_candidates, Parameter.unpaired?, Parameter.unpaired?,
    hnull, hnothing]
  simp only [Query.set, List.findSome?_append, hint, List.append_nil, Option.or_none]

/-! ## Printing one value -/

/-- Whether a run ends well and prints a value on one line. -/
def Prints (ran : Run Ending) (v : Value) : Prop :=
  ran.result = .ok (.exit 0) ∧ ∃ s, Json.write .oneLine .lenient v = .ok s ∧
    standardOutput ran.events = s ++ "\n"

namespace Prints

variable {ran ran' : Run Ending} {v v' : Value}

/-- A value that can be read back is read back from the line. -/
theorem isLine (h : Prints ran v) (hv : v.IsDocument) : IsLine (standardOutput ran.events) v := by
  obtain ⟨-, s, hwrite, houtput⟩ := h
  obtain ⟨s', hwrite', hread⟩ := Json.read_write .oneLine .lenient hv
  cases hwrite.symm.trans hwrite'
  refine ⟨s, houtput, Json.newline_not_mem_write .lenient hwrite, ?_⟩
  have := hread "" (by simp)
  rwa [String.append_empty] at this

/-- Two outputs are the same exactly if the values are. -/
theorem output_eq_iff (h : Prints ran v) (h' : Prints ran' v') (hv : v.IsDocument)
    (hv' : v'.IsDocument) :
    standardOutput ran.events = standardOutput ran'.events ↔ v = v' := by
  constructor
  · intro hsame
    obtain ⟨line, hline, -, hread⟩ := h.isLine hv
    obtain ⟨line', hline', -, hread'⟩ := h'.isLine hv'
    obtain rfl : line = line' :=
      (String.append_left_inj "\n").mp (hline.symm.trans (hsame.trans hline'))
    exact Except.ok.inj (hread.symm.trans hread')
  · rintro rfl
    obtain ⟨-, s, hwrite, houtput⟩ := h
    obtain ⟨-, s', hwrite', houtput'⟩ := h'
    cases hwrite.symm.trans hwrite'
    rw [houtput, houtput']

end Prints

section Concluding

variable {α : Type} {first : Job α} {shown : α → Value} {tape rest : Tape} {events : List Event}

/-- A quiet job that gives something is concluded by the line of what is shown of it. -/
theorem concluding_prints (hquiet : first.IsQuiet) {a : α}
    (hrun : first tape = ⟨.ok a, events, rest⟩) (hshown : (shown a).IsDocument) :
    Prints (concluding false (first >>= fun a => printValue false (shown a)) tape) (shown a) := by
  obtain ⟨s, hwrite, -⟩ := Json.read_write .oneLine .lenient hshown
  have hprint : (first >>= fun a => printValue false (shown a)) tape =
      ⟨.ok (), events ++ [.printed (s ++ "\n")], rest⟩ := by
    rw [Job.bind_of_ok hrun, printValue_ok false rest hwrite]
    rfl
  have hnothing : standardOutput events = "" := by
    have hevents := hquiet.events tape
    rw [hrun] at hevents
    exact standardOutput_of_isQuiet hevents
  rw [concluding_ok hprint]
  refine ⟨rfl, s, hwrite, ?_⟩
  rw [standardOutput_append, hnothing, String.empty_append, standardOutput_printed]

/-- Printing leaves the network alone. -/
theorem isOffline_printValue (terminal : Bool) (v : Value) : (printValue terminal v).IsOffline :=
  (Job.isOffline_lift _).bind fun _ => ⟨fun _ => rfl, fun _ => rfl⟩

/-- The end of the program leaves the network alone. -/
theorem isAnswered_concluding {gateway : Request → Outcome → Prop} {terminal : Bool}
    {t : Job Unit} :
    (concluding terminal t tape).IsAnswered gateway tape ↔ (t tape).IsAnswered gateway tape := by
  rw [concluding]
  refine (Run.IsAnswered.bind_iff fun result => ?_).trans Iff.rfl
  rcases result with f | _
  · dsimp only
    cases Failure.report? f with
    | none => exact Job.isOffline_pure _
    | some report =>
      refine (isOffline_printValue terminal _).attempt.bind fun result => ?_
      cases result <;> exact Job.isOffline_pure _
  · exact Job.isOffline_pure _

/-- So does printing behind a job. -/
theorem isAnswered_printing {gateway : Request → Outcome → Prop} :
    (concluding false (first >>= fun a => printValue false (shown a)) tape).IsAnswered
      gateway tape ↔ (first tape).IsAnswered gateway tape :=
  isAnswered_concluding.trans (Run.IsAnswered.bind_iff fun _ => isOffline_printValue false _)

/-- A fault ends the program in the same way on every tape. -/
theorem concluding_fail (f : Fault) (tape tape' : Tape) :
    (concluding false (Job.fail f) tape).result = (concluding false (Job.fail f) tape').result ∧
      (concluding false (Job.fail f) tape).events =
        (concluding false (Job.fail f) tape').events := by
  have hfails : ∀ tape, (Job.fail f : Job Unit) tape = ⟨.error f, [], tape⟩ := fun _ => rfl
  cases hreport : Failure.report? f with
  | none =>
    rw [concluding_raised false (hfails tape) hreport,
      concluding_raised false (hfails tape') hreport]
    exact ⟨rfl, rfl⟩
  | some report =>
    cases hwrite : Json.write .oneLine .lenient (.dict report) with
    | ok s =>
      rw [concluding_reported false (hfails tape) hreport hwrite,
        concluding_reported false (hfails tape') hreport hwrite]
      exact ⟨rfl, rfl⟩
    | error g =>
      rw [concluding_unwritten false (hfails tape) hreport hwrite,
        concluding_unwritten false (hfails tape') hreport hwrite]
      exact ⟨rfl, rfl⟩

end Concluding

section Totals

variable {flags : List QueryFlag} {entries : List (String × Value)} {schema address : String}
  {env : Environment} {parameters : Fields} {held : List Value} {contents : List Content} {s : ℕ}
  {tape : Tape}

/-- Flags of which none is a limit ask for none. -/
theorem top_eq_null (h : flags.mapM QueryFlag.entry = .ok entries)
    (hfree : ∀ flag ∈ flags, flag.option.label ≠ "--top") :
    (⟨entries, [], none⟩ : Arguments).value "--top" = .null := by
  refine Arguments.value_eq_null ?_
  rintro ⟨entry, hentry, hlabel⟩
  obtain ⟨flag, hflag, hgives⟩ := mapM_of_mem h hentry
  exact hfree flag hflag ((QueryFlag.entry_isTyped hgives).1.symm.trans hlabel)

/-- What a listing shows can be written if its contents can. -/
theorem isDocument_listing (hcontents : ∀ c ∈ contents, c.summary.IsDocument) {n : ℕ}
    (hn : n < 10 ^ Decimal.digitLimit) : (listing contents (.int n)).IsDocument := by
  refine .dict (by simp) ?_
  simp only [List.forall_mem_cons]
  refine ⟨.list ?_, .int (by simpa using hn), List.forall_mem_nil _⟩
  rw [List.forall_mem_map]
  exact hcontents

section Runs

variable (hentries : flags.mapM QueryFlag.entry = .ok entries)
  (hschema : schema.toList.head? ≠ some '-') (henv : env.IsReady address) (input : String)
  (hparameters : parametersOf ⟨entries, [], none⟩ = .ok parameters)
  (hskip : (⟨entries, [], none⟩ : Arguments).value "--skip" = .int s)

include hentries hparameters

/-- What flags ask for can be shown in an address, but for broken texts. -/
theorem parameters_isShowable (hencodes : Parameter.unpaired? parameters = none) :
    ∀ field ∈ parameters, field.2.IsShowable := by
  intro field hfield
  rw [Parameter.unpaired?, List.findSome?_eq_none_iff] at hencodes
  exact (parametersOf_isTyped (entries_isTyped hentries) hparameters field hfield).isShowable
    (hencodes field hfield)

include hskip

/-- The offset that flags give is one of their parameters. -/
theorem skip_mem : ("$skip", .int s) ∈ parameters ∧ s < 10 ^ Decimal.digitLimit := by
  obtain ⟨q, hq, hcompile⟩ := bind_eq_ok.mp hparameters
  have hvalue : q.skip = .int s := (queryOf_eq_ok.mp hq).2.2.2.1.trans hskip
  have hmem := Query.mem_compile hcompile (List.mem_cons_of_mem _ List.mem_cons_self)
    (show q.skip.isNull = false by rw [hvalue]; rfl)
  rw [hvalue] at hmem
  refine ⟨hmem, ?_⟩
  cases parametersOf_isTyped (entries_isTyped hentries) hparameters _ hmem with
  | int hs => simpa using hs

include hschema henv

/-- With a broken text among its parameters, a listing without a limit ends by it as one with a
limit does: the page that it asks for first has no address. -/
theorem walked_unencodable (htop : (⟨entries, [], none⟩ : Arguments).value "--top" = .null)
    {t : Text.Broken} (hbroken : Parameter.unpaired? parameters = some t) :
    run (requesting schema flags env input) tape = ⟨.ok (.raised (.unencodable t)), [], tape⟩ := by
  obtain ⟨q, hq, hcompile⟩ := bind_eq_ok.mp hparameters
  have hnull : q.top = .null := (queryOf_eq_ok.mp hq).2.2.1.trans htop
  have hvalue : q.skip = .int s := (queryOf_eq_ok.mp hq).2.2.2.1.trans hskip
  obtain ⟨hmem, hsmall⟩ := skip_mem hentries hparameters hskip
  have hget : (Fields.get parameters "$skip").orElse (.int 0) = .int s := by
    rw [Fields.get, Fields.find?_of_mem (Query.nodup_compile hcompile) hmem]
    cases s <;> rfl
  have htyped : ∀ field ∈ Walk.pageParameters parameters Walk.standardPageSize (.int s),
      IsTyped field.2 := by
    intro field hfield
    rcases Fields.mem_put hfield with hoffset | hfield
    · exact hoffset ▸ .int (by simpa using hsmall)
    · rcases Fields.mem_put hfield with hsize | hfield
      · exact hsize ▸ .int (Decimal.lt_of_lt_thousand (by decide))
      · exact parametersOf_isTyped (entries_isTyped hentries) hparameters field hfield
  obtain ⟨pairs, hpresent⟩ := Parameter.present_isOk_iff.mpr fun field hfield _ =>
    (htyped field hfield).render_ok
  -- neither number of the page is a broken text, nor is one that it replaces
  have hpage : Parameter.unpaired?
      (Walk.pageParameters parameters Walk.standardPageSize (.int s)) = some t := by
    rw [Walk.pageParameters, Parameter.unpaired?_put rfl, Parameter.unpaired?_put rfl, hbroken]
    · intro v hv
      rw [(Query.eq_of_mem_compile hcompile).1 hv, hnull]
      rfl
    · intro v hv
      rcases Fields.mem_put hv with rfl | hv
      · rfl
      · rw [(Query.eq_of_mem_compile hcompile).2 hv, hvalue]
        rfl
  obtain ⟨client, -, -, hrun⟩ := run_listing hentries hschema henv input tape
  have hbuild := Base.build_unencodable client.base (Path.ofSchema schema) hpresent hpage
  rw [hrun]
  refine concluding_raised false ?_ rfl
  rw [runList_walked hentries hq (by rw [hnull]; rfl)]
  exact Job.bind_of_error (Client.listAll_of_build_error (show Selection.compile (.query q) =
    .ok parameters from hcompile) hget hbuild tape)

variable (hencodes : Parameter.unpaired? parameters = none)
  (hcontents : held.mapM Content.ofValue = .ok contents)
  (hlength : held.length < 10 ^ Decimal.digitLimit)

include hencodes hcontents hlength

/-- Without a limit, an honest gateway makes a listing print the contents that are not skipped, and
their count. -/
theorem walked_prints (htop : (⟨entries, [], none⟩ : Arguments).value "--top" = .null)
    (hshown : ∀ c ∈ contents.drop s, c.summary.IsDocument)
    (hanswered : (run (requesting schema flags env input) tape).IsAnswered (AnswersHonestly held)
      tape) :
    Prints (run (requesting schema flags env input) tape)
      (listing (contents.drop s) (.int (held.length - s : ℕ))) := by
  obtain ⟨q, hq, hcompile⟩ := bind_eq_ok.mp hparameters
  have hnull : q.top.isNull = true := by
    rw [(queryOf_eq_ok.mp hq).2.2.1, htop]
    rfl
  obtain ⟨hmem, hsmall⟩ := skip_mem hentries hparameters hskip
  have hshow := parameters_isShowable hentries hparameters hencodes
  obtain ⟨client, hbase, hheaders, hrun⟩ := run_listing hentries hschema henv input tape
  rw [hrun, runList_walked hentries hq hnull] at hanswered ⊢
  have hget : Fields.get parameters "$skip" = .int s := by
    rw [Fields.get, Fields.find?_of_mem (Query.nodup_compile hcompile) hmem]
    rfl
  obtain ⟨events, rest, hall⟩ := Client.listAll_honest hbase hheaders henv.isWhole henv.noQuery
    hshow hcontents hlength (show Selection.compile (.query q) = .ok parameters from hcompile) hget
    hsmall (isAnswered_printing.mp hanswered)
  have hcount : (contents.drop s).length = held.length - s := by
    rw [List.length_drop, mapM_length hcontents]
  rw [← hcount]
  exact concluding_prints (client.isQuiet_listAll _ _) hall
    (isDocument_listing hshown (by omega))

/-- With a limit, an honest gateway makes a listing print the contents that are not skipped, up to
the limit, and the length of what the gateway holds. -/
theorem limited_prints {n : ℕ} (htop : (⟨entries, [], none⟩ : Arguments).value "--top" = .int n)
    (hanswered : (run (requesting schema flags env input) tape).IsAnswered (AnswersHonestly held)
      tape) :
    (∀ v ∈ (held.drop s).take n, v.IsDocument) ∧
      Prints (run (requesting schema flags env input) tape)
        (listing ((contents.drop s).take n) (.int held.length)) := by
  obtain ⟨q, hq, hcompile⟩ := bind_eq_ok.mp hparameters
  have hvalue : q.top = .int n := (queryOf_eq_ok.mp hq).2.2.1.trans htop
  have hset : q.top.isNull = false := by
    rw [hvalue]
    rfl
  have htopMem := Query.mem_compile hcompile List.mem_cons_self hset
  rw [hvalue] at htopMem
  obtain ⟨hmem, -⟩ := skip_mem hentries hparameters hskip
  have hshow := parameters_isShowable hentries hparameters hencodes
  obtain ⟨client, hbase, hheaders, hrun⟩ := run_listing hentries hschema henv input tape
  rw [hrun, runList_limited hentries hq hset] at hanswered ⊢
  obtain ⟨h, request, hprepare, hasks, -⟩ := Client.prepare_asking hbase hheaders henv.isWhole
    henv.noQuery hshow schema ⟨_, hmem, rfl⟩
  obtain ⟨hdocuments, rest, hlist⟩ := Client.list_honest hcontents hcompile hprepare
    (hasks _ _ hmem) (hasks _ _ htopMem) (isAnswered_printing.mp hanswered)
  refine ⟨hdocuments, ?_⟩
  have hpart := mapM_take (mapM_drop hcontents s) n
  exact concluding_prints (client.isQuiet_list _ _) hlist
    (isDocument_listing (fun c hc => by
      obtain ⟨v, hv, hread⟩ := mapM_of_mem hpart hc
      exact Content.isDocument_summary (hdocuments v hv) hread) hlength)

end Runs

/-- By flags that ask for parameters, listings without and with a limit that is large enough print
the same contents, the one with their count and the other with the length of what the gateway
holds. -/
theorem listings_print {limited : List QueryFlag} {parameters' : Fields} {n : ℕ}
    (h : flags.mapM QueryFlag.entry = .ok entries)
    (hmore : limited.mapM QueryFlag.entry = .ok (entries ++ [("--top", .int n)]))
    (hschema : schema.toList.head? ≠ some '-') (henv : env.IsReady address) (input : String)
    (hparameters : parametersOf ⟨entries, [], none⟩ = .ok parameters)
    (hparameters' : parametersOf ⟨entries ++ [("--top", .int n)], [], none⟩ = .ok parameters')
    (hskip : (⟨entries, [], none⟩ : Arguments).value "--skip" = .int s)
    (htop : (⟨entries, [], none⟩ : Arguments).value "--top" = .null)
    (hencodes : Parameter.unpaired? parameters = none)
    (hcontents : held.mapM Content.ofValue = .ok contents) (hn : held.length ≤ n)
    (hlength : held.length < 10 ^ Decimal.digitLimit) {tape' : Tape}
    (hwalked : (run (requesting schema flags env input) tape).IsAnswered (AnswersHonestly held)
      tape)
    (hlimited : (run (requesting schema limited env input) tape').IsAnswered (AnswersHonestly held)
      tape') :
    (∀ c ∈ contents.drop s, c.summary.IsDocument) ∧
      Prints (run (requesting schema flags env input) tape)
        (listing (contents.drop s) (.int (held.length - s : ℕ))) ∧
      Prints (run (requesting schema limited env input) tape')
        (listing (contents.drop s) (.int held.length)) := by
  have hskip' : (⟨entries ++ [("--top", .int n)], [], none⟩ : Arguments).value "--skip" =
      .int s := by rw [value_append, if_neg (by simp), hskip]
  have htop' : (⟨entries ++ [("--top", .int n)], [], none⟩ : Arguments).value "--top" =
      .int n := by rw [value_append, if_pos rfl]
  have hencodes' := (unpaired?_limited hparameters hparameters' htop).trans hencodes
  obtain ⟨hdocuments, hprints⟩ := limited_prints hmore hschema henv input hparameters' hskip'
    hencodes' hcontents hlength htop' hlimited
  -- the limit cuts nothing off
  rw [List.take_of_length_le (by rw [List.length_drop]; omega)] at hdocuments
  rw [List.take_of_length_le (by rw [List.length_drop, mapM_length hcontents]; omega)] at hprints
  have hshown : ∀ c ∈ contents.drop s, c.summary.IsDocument := by
    intro c hc
    obtain ⟨v, hv, hread⟩ := mapM_of_mem (mapM_drop hcontents s) hc
    exact Content.isDocument_summary (hdocuments v hv) hread
  exact ⟨hshown, walked_prints h hschema henv input hparameters hskip hencodes hcontents hlength
    htop hshown hwalked, hprints⟩

/-- Let a gateway that holds some items answer two listings honestly, both by the same flags with
the same offset behind them, one without a limit and one with a limit that is not below the length
of what is held. Where the flags ask for parameters that can be sent, both end well and print the
same contents, those that are not skipped. The one without a limit prints their count as the total,
and the other the length of all that is held, so the outputs are the same only if nothing is skipped
or nothing is held. Where the flags ask for no such parameters, neither ends well, and both end in
the same way. -/
theorem totals_part (hschema : schema.toList.head? ≠ some '-') (henv : env.IsReady address)
    (hfree : ∀ flag ∈ flags, flag.option.label ≠ "--top") {skip top : QueryFlag} {n : ℕ}
    (hskip : skip.entry = .ok ("--skip", .int s)) (htop : top.entry = .ok ("--top", .int n))
    (hheld : ∀ v ∈ held, v.IsItem) (hn : held.length ≤ n) (input : String) {tape tape' : Tape}
    (hwalked : (run (requesting schema (flags ++ [skip]) env input) tape).IsAnswered
      (AnswersHonestly held) tape)
    (hlimited : (run (requesting schema (flags ++ [skip, top]) env input) tape').IsAnswered
      (AnswersHonestly held) tape') :
    let walked := run (requesting schema (flags ++ [skip]) env input) tape
    let limited := run (requesting schema (flags ++ [skip, top]) env input) tape'
    (AskFor (flags ++ [skip]) → ∃ contents, (held.drop s).mapM Content.ofValue = .ok contents ∧
      walked.result = .ok (.exit 0) ∧ limited.result = .ok (.exit 0) ∧
      IsLine (standardOutput walked.events) (listing contents (.int (held.length - s : ℕ))) ∧
      IsLine (standardOutput limited.events) (listing contents (.int held.length)) ∧
      (standardOutput walked.events = standardOutput limited.events ↔ s = 0 ∨ held = [])) ∧
    (¬ AskFor (flags ++ [skip]) → walked.result ≠ .ok (.exit 0) ∧
      limited.result = walked.result ∧ limited.events = walked.events) := by
  dsimp only
  cases hentries : flags.mapM QueryFlag.entry with
  | error halt =>
    obtain ⟨message, rfl⟩ := entries_error hentries
    have hmistake : ∀ more : List QueryFlag,
        (flags ++ more).mapM QueryFlag.entry = .error (.mistake message) := by
      intro more
      rw [List.mapM_append, hentries]
      rfl
    rw [run_listing_mistake (hmistake [skip]) hschema env input tape,
      run_listing_mistake (hmistake [skip, top]) hschema env input tape']
    refine ⟨fun ⟨entries, parameters, hread, _⟩ => ?_, fun _ => ⟨nofun, rfl, rfl⟩⟩
    cases hread.symm.trans (hmistake [skip])
  | ok entries =>
    have hbase : (flags ++ [skip]).mapM QueryFlag.entry =
        .ok (entries ++ [("--skip", .int s)]) := by
      rw [List.mapM_append, hentries, List.mapM_cons, hskip]
      rfl
    have hmore : (flags ++ [skip, top]).mapM QueryFlag.entry =
        .ok (entries ++ [("--skip", .int s)] ++ [("--top", .int n)]) := by
      rw [List.append_cons, List.mapM_append, hbase, List.mapM_cons, htop]
      rfl
    rcases (failAlike_limited (entries ++ [("--skip", .int s)]) (.int n)).cases with
      ⟨parameters, parameters', hparameters, hparameters'⟩ | ⟨f, hfault, hfault'⟩
    · have hnone : (⟨entries ++ [("--skip", .int s)], [], none⟩ : Arguments).value "--top" =
          .null := by
        rw [value_append, if_neg (by simp), top_eq_null hentries hfree]
      have hgiven : (⟨entries ++ [("--skip", .int s)], [], none⟩ : Arguments).value "--skip" =
          .int s := by rw [value_append, if_pos rfl]
      cases hencodes : Parameter.unpaired? parameters with
      | some t =>
        have hencodes' := (unpaired?_limited hparameters hparameters' hnone).trans hencodes
        have hlimit : ∃ flag ∈ flags ++ [skip, top], flag.option.label = "--top" :=
          ⟨top, by simp, (QueryFlag.entry_isTyped htop).1.symm⟩
        rw [walked_unencodable hbase hschema henv input hparameters hgiven hnone hencodes,
          run_listing_unencodable hmore hschema henv input tape' hlimit hparameters' hencodes']
        refine ⟨fun ⟨_, _, hread, hasked, hsent⟩ => ?_, fun _ => ⟨nofun, rfl, rfl⟩⟩
        cases hread.symm.trans hbase
        cases hasked.symm.trans hparameters
        cases hsent.symm.trans hencodes
      | none =>
        obtain ⟨contents, hcontents⟩ := contents_of_isItem hheld
        have hlength : held.length < 10 ^ Decimal.digitLimit := by
          cases (QueryFlag.entry_isTyped htop).2 with
          | int hlimit => exact hn.trans_lt (by simpa using hlimit)
        obtain ⟨hshown, hcounts, htotals⟩ := listings_print hbase hmore hschema henv input
          hparameters hparameters' hgiven hnone hencodes hcontents hn hlength hwalked hlimited
        have hcounted := isDocument_listing hshown ((Nat.sub_le held.length s).trans_lt hlength)
        have htotalled := isDocument_listing hshown hlength
        refine ⟨fun _ => ⟨_, mapM_drop hcontents s, hcounts.1, htotals.1, hcounts.isLine hcounted,
          htotals.isLine htotalled, ?_⟩,
          fun hnot => absurd ⟨_, _, hbase, hparameters, hencodes⟩ hnot⟩
        rw [hcounts.output_eq_iff htotals hcounted htotalled, ← List.length_eq_zero_iff]
        simp only [listing, Value.dict.injEq, List.cons.injEq, Prod.mk.injEq, Value.int.injEq,
          Nat.cast_inj, true_and, and_true]
        omega
    · rw [run_listing_error hbase hschema henv input tape hfault,
        run_listing_error hmore hschema henv input tape' hfault']
      have hfails : (Job.fail f : Job Unit) tape = ⟨.error f, [], tape⟩ := rfl
      refine ⟨fun ⟨_, _, hread, hasked, _⟩ => ?_, fun _ => ?_⟩
      · cases hread.symm.trans hbase
        cases hasked.symm.trans hfault
      · exact ⟨(concluding_error false hfails).1, concluding_fail f tape' tape⟩

end Totals

def skipFlag : QueryFlag :=
  ⟨⟨["--skip"], .wholeNumber⟩, "1", by simp [Grammar.queryOptions]⟩

/-- Two items, of which the second is what the reply holds. -/
def twoItems : List Value := [.dict [("id", .int 1)], .dict [("id", .int 1)]]

/-- To a request that skips one of two items, the reply with the other is honest. -/
theorem answersHonestly_twoItems {request : Request}
    (hskip : ∀ n, request.Asks "$skip" n → n = 1) (htop : ∀ n, request.Asks "$top" n → 1 ≤ n) :
    AnswersHonestly twoItems request twoItemsReply := by
  intro skip top hskips htops
  obtain rfl := hskip skip hskips
  refine ⟨_, twoItemsReply_holds, rfl, ?_⟩
  have hall : (twoItems.drop 1).take top = twoItems.drop 1 :=
    List.take_of_length_le (htop top htops)
  rw [hall]
  rfl

/-- A request that skips one item and has a limit is answered honestly by the reply. -/
theorem prepare_twoItems {client : Client} {address : String}
    (hbase : client.base = .ofText address) (hheaders : client.settings.headers = .dict [])
    (hready : localEnvironment.IsReady address) {n : ℕ} (hn : 1 ≤ n) (hsmall : n < 1000)
    {parameters : Fields}
    (hfields : ∀ field, field ∈ parameters ↔ field = ("$skip", .int 1) ∨ field = ("$top", .int n)) :
    ∃ h request, client.prepare { Call.plain "GET" (Path.ofSchema "s") with parameters } =
        .ok (h, request) ∧ AnswersHonestly twoItems request twoItemsReply := by
  have hshow : ∀ field ∈ parameters, field.2.IsShowable := by
    intro field hfield
    rcases (hfields field).mp hfield with rfl | rfl
    · exact .int (Decimal.lt_of_lt_thousand (by norm_num))
    · exact .int (Decimal.lt_of_lt_thousand (by simpa using hsmall))
  have hnumbers : ∀ name, ∀ field ∈ parameters, field.1 = name → ∃ m : ℕ, field.2 = .int m := by
    intro name field hfield _
    rcases (hfields field).mp hfield with rfl | rfl
    · exact ⟨1, rfl⟩
    · exact ⟨n, rfl⟩
  obtain ⟨h, request, hprepare, -, hasks⟩ := Client.prepare_asking hbase hheaders hready.isWhole
    hready.noQuery hshow "s" ⟨_, (hfields _).mpr (.inl rfl), rfl⟩
  refine ⟨h, request, hprepare, answersHonestly_twoItems (fun m hm => ?_) fun m hm => ?_⟩
  · simpa using (hfields _).mp (hasks _ (hnumbers _) m hm)
  · have hsame : m = n := by simpa using (hfields _).mp (hasks _ (hnumbers _) m hm)
    exact hsame ▸ hn

/-- Behind the skipped item, a walk asks for one page. -/
theorem walked_twoItems : (run (requesting "s" [skipFlag] localEnvironment "")
    [twoItemsReply]).IsAnswered (AnswersHonestly twoItems) [twoItemsReply] := by
  have hentries : [skipFlag].mapM QueryFlag.entry = .ok [("--skip", .int 1)] := rfl
  have hq : queryOf ⟨[("--skip", .int 1)], [], none⟩ = .ok ⟨[], none, .null, .int 1, .null⟩ := rfl
  have hcompile : Selection.compile (.query ⟨[], none, .null, .int 1, .null⟩) =
      .ok [("$skip", .int 1)] := rfl
  have hready := isReady_localEnvironment
  have hschema : "s".toList.head? ≠ some '-' := by simp
  obtain ⟨client, hbase, hheaders, hrun⟩ := run_listing hentries hschema hready ""
    [twoItemsReply]
  obtain ⟨h, request, hprepare, hhonest⟩ := prepare_twoItems hbase hheaders hready
    (by norm_num : 1 ≤ 100) (by norm_num) (fun field => by rw [List.mem_cons, List.mem_singleton])
  have hcall : client.prepare (Walk.callAt (Path.ofSchema "s") [("$skip", .int 1)] (.int 100) 1) =
      .ok (h, request) := hprepare
  have hpage : Page.ofReply (.dict [("total", .int 2), ("items", .list [.dict [("id", .int 1)]])]) =
      .ok ⟨.int 2, [.ofFields (.int 1) [("id", .int 1)]]⟩ := rfl
  have hpages : Walk.pagesFrom (client.pageAt "s" [("$skip", .int 1)] 100) 2 none (.int 1)
      [twoItemsReply] = ⟨.ok ⟨[.ofFields (.int 1) [("id", .int 1)]], none⟩,
        [h.attempt, .sent request], []⟩ :=
    Walk.pagesFrom_last (Client.pageAt_holds hcall twoItemsReply_holds hpage []) rfl
  rw [hrun, runList_walked hentries hq rfl]
  refine isAnswered_printing.mpr (Client.isAnswered_listAll.mpr ?_)
  rw [Walk.standardPageSize, Client.walk_eq hcompile (.inl rfl) (by simp)]
  exact .single (congrArg Run.events hpages) (congrArg Run.rest hpages) hhonest

/-- With a limit of five, a listing asks for one page too. -/
theorem limited_twoItems : (run (requesting "s" [skipFlag, topFlag] localEnvironment "")
    [twoItemsReply]).IsAnswered (AnswersHonestly twoItems) [twoItemsReply] := by
  have hentries : [skipFlag, topFlag].mapM QueryFlag.entry =
      .ok [("--skip", .int 1), ("--top", .int 5)] := rfl
  have hq : queryOf ⟨[("--skip", .int 1), ("--top", .int 5)], [], none⟩ =
      .ok ⟨[], none, .int 5, .int 1, .null⟩ := rfl
  have hready := isReady_localEnvironment
  have hschema : "s".toList.head? ≠ some '-' := by simp
  obtain ⟨client, hbase, hheaders, hrun⟩ := run_listing hentries hschema hready ""
    [twoItemsReply]
  obtain ⟨h, request, hprepare, hhonest⟩ := prepare_twoItems hbase hheaders hready
    (by norm_num : 1 ≤ 5) (by norm_num) (fun field => by
      rw [or_comm, List.mem_cons, List.mem_singleton])
  have hlist := Client.list_holds (rfl : Query.compile ⟨[], none, .int 5, .int 1, .null⟩ = _)
    hprepare twoItemsReply_holds rfl []
  rw [hrun, runList_limited hentries hq rfl]
  refine isAnswered_printing.mpr ?_
  exact .single (congrArg Run.events hlist) (congrArg Run.rest hlist) hhonest

/-- Of two items of which one is skipped, the total is one behind a walk and two with a limit. -/
theorem totals_part_skipped :
    let walked := run (requesting "s" [skipFlag] localEnvironment "") [twoItemsReply]
    let limited := run (requesting "s" [skipFlag, topFlag] localEnvironment "") [twoItemsReply]
    (∃ contents, IsLine (standardOutput walked.events) (listing contents (.int 1)) ∧
      IsLine (standardOutput limited.events) (listing contents (.int 2))) ∧
    standardOutput walked.events ≠ standardOutput limited.events := by
  have hheld : ∀ v ∈ twoItems, v.IsItem := by
    intro v hv
    rw [List.eq_of_mem_replicate (show v ∈ List.replicate 2 _ from hv)]
    exact ⟨_, _, rfl, rfl⟩
  have hfree : ∀ flag ∈ ([] : List QueryFlag), flag.option.label ≠ "--top" := nofun
  have hskip : skipFlag.entry = .ok ("--skip", .int (1 : ℕ)) := rfl
  have htop : topFlag.entry = .ok ("--top", .int (5 : ℕ)) := rfl
  obtain ⟨hprints, -⟩ := totals_part (by simp) isReady_localEnvironment hfree hskip htop hheld
    (by decide) "" walked_twoItems limited_twoItems
  obtain ⟨contents, -, -, -, hcounted, htotalled, hsame⟩ := hprints ⟨_, _, rfl, rfl, rfl⟩
  exact ⟨⟨contents, hcounted, htotalled⟩, fun h => absurd (hsame.mp h) (by simp [twoItems])⟩

end Command

end ContentGateway
