import Mathlib
import ContentGateway.Proofs.Address.Parameters
import ContentGateway.Proofs.Command.Flags
import ContentGateway.Proofs.Decimal.Whole
import ContentGateway.Proofs.Json.RoundTrip
import ContentGateway.Proofs.Query.Compiled
import ContentGateway.Proofs.Transport.Job

/-!
# What a query shows

Flags that can be read give values that can be written, so a query that compiles is shown: its
parameters are printed on the standard output and read back from it. A query that does not compile
ends the program with its fault and nothing behind it but a report.
-/

namespace ContentGateway.Command

def parametersOf (arguments : Arguments) : Except Fault Fields := do
  let query ← queryOf arguments
  query.compile

/-! ## Values of flags -/

/-- What a flag can ask for: a text, a number short enough for text, or nothing at all. -/
inductive IsTyped : Value → Prop
  | text (s : String) : IsTyped (.text s)
  | unpaired (t : Text.Broken) : IsTyped (.unpaired t)
  | int {i : ℤ} (h : i.natAbs < 10 ^ Decimal.digitLimit) : IsTyped (.int i)
  | nothing : IsTyped (.list [])

/-- What a flag can ask for is a value of JSON that has a text. -/
theorem IsTyped.isDocument {v : Value} (h : IsTyped v) : v.IsDocument := by
  cases h with
  | text s => exact .text s
  | unpaired t => exact .unpaired t
  | int h => exact .int h
  | nothing => exact .list fun v hv => absurd hv List.not_mem_nil

/-- A text of points can be asked for. -/
theorem IsTyped.ofPoints (ps : List Text.Point) : IsTyped (.ofPoints ps) := by
  rcases Value.ofPoints_cases ps with ⟨t, -, h⟩ | h
  · exact h ▸ .unpaired t
  · exact h ▸ .text _

/-- What a flag can ask for, if it is no broken text, can be shown. -/
theorem IsTyped.isShowable {v : Value} (h : IsTyped v) (hwhole : v.unpaired? = none) :
    v.IsShowable := by
  cases h with
  | text s => exact .text s
  | unpaired t => cases hwhole
  | int h => exact .int h
  | nothing => exact .list fun v hv => absurd hv List.not_mem_nil

/-- What a flag can ask for has a text as a parameter, broken or not. -/
theorem IsTyped.render_ok {v : Value} (h : IsTyped v) : ∃ text, Parameter.render v = .ok text := by
  cases hwhole : v.unpaired? with
  | none => exact Parameter.render_ok (h.isShowable hwhole)
  | some t =>
    cases h with
    | unpaired t => exact ⟨_, rfl⟩
    | _ => cases hwhole

theorem IsTyped.isNull {v : Value} (h : IsTyped v) : v.isNull = false := by
  cases h <;> rfl

/-- A flag gives a value under its label. -/
theorem QueryFlag.entry_isTyped {flag : QueryFlag} {entry : String × Value}
    (h : flag.entry = .ok entry) : entry.1 = flag.option.label ∧ IsTyped entry.2 := by
  obtain ⟨v, hv, h⟩ := bind_eq_ok.mp h
  cases h
  refine ⟨rfl, ?_⟩
  have htaken : IsTyped (Form.taken [flag.value]) := by
    rw [Form.taken_singleton]
    split
    · exact .nothing
    · exact .text flag.value
  obtain ⟨-, -, -, htakes⟩ := Grammar.queryOptions_names _ flag.known
  rw [Form.optionValue.eq_def] at hv
  split at hv
  · cases hv
  · next hnothing =>
    rw [Form.takesValue, hnothing] at htakes
    exact absurd htakes (by decide)
  · split at hv
    · next hread =>
      cases hv
      exact .int (Decimal.readInt?_lt hread)
    · cases hv
  · cases hv
    exact htaken

/-- Flags give values that can be asked for. -/
theorem entries_isTyped {flags : List QueryFlag} {entries : List (String × Value)}
    (h : flags.mapM QueryFlag.entry = .ok entries) : ∀ entry ∈ entries, IsTyped entry.2 := by
  intro entry hentry
  obtain ⟨flag, -, hflag⟩ := mapM_of_mem h hentry
  exact (QueryFlag.entry_isTyped hflag).2

/-- What was given for a label is one of the entries. -/
theorem Arguments.value_mem {arguments : Arguments} {label : String}
    (h : ∃ entry ∈ arguments.given, entry.1 = label) :
    (label, arguments.value label) ∈ arguments.given := by
  obtain ⟨entry, hentry, hlabel⟩ := h
  obtain ⟨found, hfound⟩ : ∃ found,
      (arguments.given.reverse.find? fun entry => entry.1 = label) = some found := by
    rw [← Option.isSome_iff_exists, List.find?_isSome]
    exact ⟨entry, List.mem_reverse.mpr hentry, by simpa using hlabel⟩
  have hvalue : arguments.value label = found.2 := by
    rw [value, last?, hfound]
    rfl
  have hname : found.1 = label := by simpa using List.find?_some hfound
  rw [hvalue, ← hname]
  exact List.mem_reverse.mp (List.mem_of_find?_eq_some hfound)

/-- A label that was not given has no value. -/
theorem Arguments.value_eq_null {arguments : Arguments} {label : String}
    (h : ¬ ∃ entry ∈ arguments.given, entry.1 = label) : arguments.value label = .null := by
  have hnone : (arguments.given.reverse.find? fun entry => entry.1 = label) = none := by
    rw [List.find?_eq_none]
    intro entry hentry hlabel
    exact h ⟨entry, List.mem_reverse.mp hentry, by simpa using hlabel⟩
  rw [value, last?, hnone]
  rfl

/-- The query that flags ask for is put together from their filter members and the values of the
other labels. -/
theorem queryOf_eq_ok {arguments : Arguments} {q : Query} :
    queryOf arguments = .ok q ↔ filterParts arguments.given = .ok q.parts ∧
      sortOrder (arguments.value "--orderby") = .ok q.sortOrder ∧
      q.top = arguments.value "--top" ∧ q.skip = arguments.value "--skip" ∧
      q.search = arguments.value "--search" := by
  constructor
  · intro h
    obtain ⟨parts, hparts, h⟩ := bind_eq_ok.mp h
    obtain ⟨order, horder, h⟩ := bind_eq_ok.mp h
    cases h
    exact ⟨hparts, horder, rfl, rfl, rfl⟩
  · rintro ⟨hparts, horder, htop, hskip, hsearch⟩
    rw [queryOf, hparts, horder, ← htop, ← hskip, ← hsearch]
    rfl

section Parameters

variable {arguments : Arguments} {fields : Fields}
  (hgiven : ∀ entry ∈ arguments.given, IsTyped entry.2) (h : parametersOf arguments = .ok fields)

include hgiven h

/-- Every parameter that flags ask for is what a flag can give. -/
theorem parametersOf_isTyped : ∀ field ∈ fields, IsTyped field.2 := by
  have hvalue : ∀ label, (arguments.value label).isNull = false →
      IsTyped (arguments.value label) := by
    intro label hnull
    by_cases hlabel : ∃ entry ∈ arguments.given, entry.1 = label
    · exact hgiven _ (Arguments.value_mem hlabel)
    · rw [Arguments.value_eq_null hlabel] at hnull
      cases hnull
  obtain ⟨q, hq, hfields⟩ := bind_eq_ok.mp h
  obtain ⟨-, -, htop, hskip, hsearch⟩ := queryOf_eq_ok.mp hq
  refine Query.forall_mem_compile hfields .ofPoints ?_
  rw [htop, hskip, hsearch]
  simp only [List.forall_mem_cons]
  exact ⟨hvalue _, hvalue _, hvalue _, List.forall_mem_nil _⟩

/-- The parameters that flags ask for are an object that can be written and read. -/
theorem parametersOf_isDocument : (Value.dict fields).IsDocument := by
  have htyped := parametersOf_isTyped hgiven h
  obtain ⟨q, hq, hfields⟩ := bind_eq_ok.mp h
  exact .dict (Query.nodup_compile hfields) fun field hfield => (htyped field hfield).isDocument

/-- The parameters that flags ask for are all there in an address, each shown as it is. -/
theorem present_parametersOf : ∃ pairs, Parameter.present fields = .ok pairs ∧
    List.Forall₂ (fun field pair => pair.1 = field.1 ∧ field.2.display = .ok pair.2)
      fields pairs := by
  have htyped := parametersOf_isTyped hgiven h
  obtain ⟨pairs, hpresent, hshown⟩ := Parameter.present_ok fun field hfield =>
    (htyped field hfield).render_ok
  rw [List.filter_eq_self.mpr fun field hfield => by simp [(htyped field hfield).isNull]] at hshown
  refine ⟨pairs, hpresent, ?_⟩
  refine ((List.forall₂_and_left _ _).mpr ⟨htyped, hshown⟩).imp fun field pair hpair => ?_
  obtain ⟨hfield, hpair⟩ := hpair
  cases hpair with
  | truth name b => cases hfield
  | other _ htext => exact ⟨rfl, htext⟩

end Parameters

/-! ## Printing -/

section Printing

variable (terminal : Bool) (tape : Tape)

theorem standardOutput_printed (s : String) : standardOutput [.printed s] = s := by
  simp [standardOutput, outputText, String.join]

/-- A value that can be written is printed on the standard output. -/
theorem printValue_ok {v : Value} {s : String}
    (h : Json.write (layoutFor terminal) .lenient v = .ok s) :
    printValue terminal v tape = ⟨.ok (), [.printed (s ++ "\n")], tape⟩ := by
  rw [printValue, h, Job.ok_bind]
  rfl

/-- A value that cannot be written is not printed. -/
theorem printValue_error {v : Value} {f : Fault}
    (h : Json.write (layoutFor terminal) .lenient v = .error f) :
    printValue terminal v tape = ⟨.error f, [], tape⟩ := by
  rw [printValue, h]
  rfl

/-- Parameters that flags ask for are printed and read back. -/
theorem runQuery_ok {arguments : Arguments} {fields : Fields}
    (hgiven : ∀ entry ∈ arguments.given, IsTyped entry.2)
    (h : parametersOf arguments = .ok fields) :
    ∃ s, runQuery terminal arguments tape = ⟨.ok (), [.printed s], tape⟩ ∧
      Json.read s = .ok (.dict fields) := by
  have hdocument := parametersOf_isDocument hgiven h
  obtain ⟨s, hwrite, hread⟩ := Json.read_write (layoutFor terminal) .lenient hdocument
  obtain ⟨q, hq, hfields⟩ := bind_eq_ok.mp h
  refine ⟨s ++ "\n", ?_, hread "\n" (by simp [Json.isBlank])⟩
  rw [runQuery, hq, Job.ok_bind, hfields, Job.ok_bind]
  exact printValue_ok terminal tape hwrite

/-- Flags that ask for no parameters end a query. -/
theorem runQuery_error {arguments : Arguments} {f : Fault} (h : parametersOf arguments = .error f) :
    runQuery terminal arguments tape = ⟨.error f, [], tape⟩ := by
  rw [parametersOf] at h
  rw [runQuery]
  cases hq : queryOf arguments with
  | error g =>
    rw [hq] at h
    cases h
    rfl
  | ok q =>
    rw [hq] at h
    rw [Job.ok_bind, show q.compile = .error f from h]
    rfl

/-! ## Ending -/

variable {terminal tape} {t u : Job Unit} {events : List Event} {rest : Tape}

theorem concluding_ok (h : t tape = ⟨.ok (), events, rest⟩) :
    concluding terminal t tape = ⟨.ok (.exit 0), events, rest⟩ := by
  rw [concluding, Job.bind_of_ok (Job.attempt_eq h)]
  show (⟨.ok (.exit 0), events ++ [], rest⟩ : Run Ending) = _
  rw [List.append_nil]

/-- Jobs that run alike end the program alike. -/
theorem concluding_congr (h : t tape = u tape) :
    concluding terminal t tape = concluding terminal u tape := by
  have hrun : u tape = ⟨(u tape).result, (u tape).events, (u tape).rest⟩ := rfl
  rw [concluding, concluding, Job.bind_of_ok (Job.attempt_eq (h.trans hrun)),
    Job.bind_of_ok (Job.attempt_eq hrun)]

/-- What a job shows stays at the beginning when the program ends. -/
theorem concluding_events (terminal : Bool) (t : Job Unit) (tape : Tape) :
    ∃ later, (concluding terminal t tape).events = (t tape).events ++ later := by
  rw [concluding]
  exact Job.bind_events t.attempt _ tape

/-- A fault without a report ends the program as it is. -/
theorem concluding_raised (terminal : Bool) {f : Fault} (h : t tape = ⟨.error f, events, rest⟩)
    (hreport : Failure.report? f = none) :
    concluding terminal t tape = ⟨.ok (.raised f), events, rest⟩ := by
  rw [concluding, Job.bind_of_ok (Job.attempt_eq h)]
  simp only [hreport, Job.pure_eq, Run.behind, List.append_nil]

/-- A fault with a report that can be written is reported. -/
theorem concluding_reported (terminal : Bool) {f : Fault} (h : t tape = ⟨.error f, events, rest⟩)
    {report : Fields} (hreport : Failure.report? f = some report) {s : String}
    (hwrite : Json.write (layoutFor terminal) .lenient (.dict report) = .ok s) :
    concluding terminal t tape = ⟨.ok (.exit 1), events ++ [.printed (s ++ "\n")], rest⟩ := by
  rw [concluding, Job.bind_of_ok (Job.attempt_eq h)]
  simp only [hreport]
  rw [Job.bind_of_ok (Job.attempt_eq (printValue_ok terminal rest hwrite))]
  rfl

/-- A report that cannot be written ends the program with the fault of writing. -/
theorem concluding_unwritten (terminal : Bool) {f g : Fault}
    (h : t tape = ⟨.error f, events, rest⟩) {report : Fields}
    (hreport : Failure.report? f = some report)
    (hwrite : Json.write (layoutFor terminal) .lenient (.dict report) = .error g) :
    concluding terminal t tape = ⟨.ok (.raised g), events, rest⟩ := by
  rw [concluding, Job.bind_of_ok (Job.attempt_eq h)]
  simp only [hreport]
  rw [Job.bind_of_ok (Job.attempt_eq (printValue_error terminal rest hwrite))]
  simp only [Job.pure_eq, Run.behind, List.append_nil]

/-- A job that fails leaves what it did before, and at most a report behind it. -/
theorem concluding_error (terminal : Bool) {f : Fault} (h : t tape = ⟨.error f, events, rest⟩) :
    (concluding terminal t tape).result ≠ .ok (.exit 0) ∧
      ∃ reports : List String,
        (concluding terminal t tape).events = events ++ reports.map .printed := by
  cases hreport : Failure.report? f with
  | none =>
    rw [concluding_raised terminal h hreport]
    exact ⟨nofun, [], (List.append_nil events).symm⟩
  | some report =>
    cases hwrite : Json.write (layoutFor terminal) .lenient (.dict report) with
    | ok s =>
      rw [concluding_reported terminal h hreport hwrite]
      exact ⟨nofun, [s ++ "\n"], rfl⟩
    | error g =>
      rw [concluding_unwritten terminal h hreport hwrite]
      exact ⟨nofun, [], (List.append_nil events).symm⟩

/-- A problem with the input is reported by its message. -/
theorem concluding_problem (terminal : Bool) {kind : ProblemKind} {message : String}
    (h : t tape = ⟨.error (.problem kind message .null), events, rest⟩) :
    ∃ s, concluding terminal t tape = ⟨.ok (.exit 1), events ++ [.printed s], rest⟩ ∧
      Json.read s = .ok (.dict [("error", .text message)]) := by
  have hdocument : (Value.dict [("error", .text message)]).IsDocument := by
    refine .dict (by simp) fun field hfield => ?_
    rw [List.mem_singleton.mp hfield]
    exact .text message
  obtain ⟨s, hwrite, hread⟩ := Json.read_write (layoutFor terminal) .lenient hdocument
  exact ⟨s ++ "\n", concluding_reported terminal h rfl hwrite, hread "\n" (by simp [Json.isBlank])⟩

end Printing

/-! ## The program -/

section Program

variable {flags : List QueryFlag} {entries : List (String × Value)}
  (env : Environment) (input : String) (terminal : Bool) (tape : Tape)

/-- The run of `query` on flags. -/
def showing (flags : List QueryFlag) (env : Environment) (input : String) (terminal : Bool) :
    Invocation :=
  ⟨"query" :: flags.map QueryFlag.argument, env, input, terminal⟩

/-- A query that compiles is shown: the program ends well, and its output holds the parameters. -/
theorem run_query_ok (h : flags.mapM QueryFlag.entry = .ok entries) {fields : Fields}
    (hfields : parametersOf ⟨entries, [], none⟩ = .ok fields) :
    ∃ s, run (showing flags env input terminal) tape = ⟨.ok (.exit 0), [.printed s], tape⟩ ∧
      Json.read s = .ok (.dict fields) := by
  obtain ⟨s, hrun, hread⟩ := runQuery_ok terminal tape (entries_isTyped h) hfields
  refine ⟨s, ?_, hread⟩
  rw [run, showing, readArguments_query h]
  exact concluding_ok hrun

/-- A query that does not compile ends as any job that fails so. -/
theorem run_query_error (h : flags.mapM QueryFlag.entry = .ok entries) {f : Fault}
    (hfields : parametersOf ⟨entries, [], none⟩ = .error f) :
    run (showing flags env input terminal) tape = concluding terminal (Job.fail f) tape := by
  rw [run, showing, readArguments_query h]
  exact concluding_congr (runQuery_error terminal tape hfields)

/-- A flag that cannot be read ends the program as a mistake. -/
theorem run_query_mistake {halt : Halt} (h : flags.mapM QueryFlag.entry = .error halt) :
    (run (showing flags env input terminal) tape).result = .ok (.exit 2) := by
  obtain ⟨message, hmessage⟩ := readArguments_query_error h
  rw [run, showing, hmessage]
  rfl

end Program

end ContentGateway.Command
