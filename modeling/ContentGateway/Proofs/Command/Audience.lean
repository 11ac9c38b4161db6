import Mathlib
import ContentGateway.Proofs.Command.Ending
import ContentGateway.Proofs.Command.Payload

/-!
# What a person and a pipe are shown

At a terminal a value is laid out over lines, behind a pipe on one. Listings apart, nothing else
depends on who watches: the two runs of a command do the same on the network and end the same, and
where the one prints a line of JSON the other prints a text that is read as the same value.

A verb prints once, behind quiet jobs that do not know who watches; so the two runs can part in the
layout of their last event only, and a report is the last event where one is made.
-/

namespace ContentGateway

open Command

/-! ## Runs that part in the layout -/

/-- Whether an output is a JSON text, over as many lines as it likes, that is read as a value. -/
def Command.IsJson (output : String) (v : Value) : Prop :=
  ∃ text, output = text ++ "\n" ∧ Json.read text = .ok v

/-- Whether two runs are the same, and print nothing, or are the same but for their last event: the
first prints a JSON text there, the second a line that is read as the same value. -/
inductive Run.Alike {α : Type} : Run α → Run α → Prop
  | quiet {run : Run α} (h : ∀ e ∈ run.events, e.IsQuiet) : Alike run run
  | shown {a : α} {events : List Event} {rest : Tape} {s s' : String} {v : Value}
      (h : ∀ e ∈ events, e.IsQuiet) (hread : Json.read s = .ok v) (hread' : Json.read s' = .ok v)
      (hline : '\n' ∉ s'.toList) :
      Alike ⟨.ok a, events ++ [.printed (s ++ "\n")], rest⟩
        ⟨.ok a, events ++ [.printed (s' ++ "\n")], rest⟩

namespace Run.Alike

variable {α : Type} {human machine : Run α}

/-- Quiet events ahead keep runs alike. -/
theorem behind (h : human.Alike machine) {events : List Event} (hevents : ∀ e ∈ events, e.IsQuiet) :
    (human.behind events).Alike (machine.behind events) := by
  have hahead : ∀ {more : List Event}, (∀ e ∈ more, e.IsQuiet) →
      ∀ e ∈ events ++ more, e.IsQuiet := fun hmore e he =>
    (List.mem_append.mp he).elim (hevents e) (hmore e)
  cases h with
  | quiet h => exact .quiet (hahead h)
  | shown h hread hread' hline =>
    simp only [Run.behind, ← List.append_assoc]
    exact .shown (hahead h) hread hread' hline

/-- Runs that part in what they print end in the same way. -/
theorem result_eq (h : human.Alike machine) : human.result = machine.result := by
  cases h <;> rfl

theorem rest_eq (h : human.Alike machine) : human.rest = machine.rest := by
  cases h <;> rfl

theorem requests_eq (h : human.Alike machine) : human.requests = machine.requests := by
  cases h with
  | quiet => rfl
  | shown =>
    rw [Run.requests, Run.requests, List.filterMap_append, List.filterMap_append]
    rfl

theorem delays_eq (h : human.Alike machine) : human.delays = machine.delays := by
  cases h with
  | quiet => rfl
  | shown =>
    rw [Run.delays, Run.delays, List.filterMap_append, List.filterMap_append]
    rfl

/-- The second run leaves a line that holds a value exactly if the first leaves a text that is read
as the value. -/
theorem isLine_iff (h : human.Alike machine) (v : Value) :
    IsLine (standardOutput machine.events) v ↔ IsJson (standardOutput human.events) v := by
  cases h with
  | quiet h =>
    rw [standardOutput_of_isQuiet h]
    have hempty : ∀ s : String, "" ≠ s ++ "\n" := fun s hs => by
      simpa using congrArg String.toList hs
    exact ⟨fun ⟨s, hs, _⟩ => absurd hs (hempty s), fun ⟨s, hs, _⟩ => absurd hs (hempty s)⟩
  | @shown a events rest s s' w h hread hread' hline =>
    have houtput : ∀ text, standardOutput (events ++ [.printed (text ++ "\n")]) = text ++ "\n" := by
      intro text
      rw [standardOutput_append, standardOutput_of_isQuiet h, String.empty_append,
        standardOutput_printed]
    rw [houtput, houtput]
    constructor
    · rintro ⟨line, heq, -, hv⟩
      obtain rfl := (String.append_left_inj "\n").mp heq
      cases hread'.symm.trans hv
      exact ⟨s, rfl, hread⟩
    · rintro ⟨text, heq, hv⟩
      obtain rfl := (String.append_left_inj "\n").mp heq
      cases hread.symm.trans hv
      exact ⟨s', rfl, hline, hread'⟩

end Run.Alike

/-! ## Jobs that part in the layout -/

/-- Whether two jobs part in the layout of what they print only. -/
def Job.Alike {α : Type} (human machine : Job α) : Prop :=
  ∀ tape, (human tape).Alike (machine tape)

/-- Jobs that part in the layout still do behind the same quiet one. -/
theorem Job.Alike.after {α β : Type} {first : Job α} {next next' : α → Job β}
    (hfirst : first.IsQuiet) (hnext : ∀ a, (next a).Alike (next' a)) :
    (first >>= next).Alike (first >>= next') := by
  intro tape
  have hquiet := hfirst.events tape
  rcases hrun : first tape with ⟨result, events, rest⟩
  rw [hrun] at hquiet
  cases result with
  | error f =>
    rw [Job.bind_of_error hrun, Job.bind_of_error hrun]
    exact .quiet hquiet
  | ok a =>
    rw [Job.bind_of_ok hrun, Job.bind_of_ok hrun]
    exact (hnext a rest).behind hquiet

namespace Command

/-- A value has a form for both, read as the same and the second on one line, or for neither for the
same reason. -/
theorem write_audiences (v : Value) :
    (∃ f, Json.write (layoutFor true) .lenient v = .error f ∧
      Json.write (layoutFor false) .lenient v = .error f) ∨
    ∃ s s' w, Json.write (layoutFor true) .lenient v = .ok s ∧
      Json.write (layoutFor false) .lenient v = .ok s' ∧
      Json.read s = .ok w ∧ Json.read s' = .ok w ∧ '\n' ∉ s'.toList := by
  rcases Json.write_lenient_layouts .indented .oneLine v with
    hfails | ⟨s, s', w, hwrite, hwrite', hread⟩
  · exact .inl hfails
  · obtain ⟨hs, hs'⟩ := hread "" (by simp)
    rw [String.append_empty] at hs hs'
    exact .inr ⟨s, s', w, hwrite, hwrite', hs, hs', Json.newline_not_mem_write .lenient hwrite'⟩

/-- A value is printed for both, or for neither for the same reason. -/
theorem alike_printValue (v : Value) : (printValue true v).Alike (printValue false v) := by
  intro tape
  rcases write_audiences v with
    ⟨f, hwrite, hwrite'⟩ | ⟨s, s', w, hwrite, hwrite', hread, hread', hline⟩
  · rw [printValue_error true tape hwrite, printValue_error false tape hwrite']
    exact .quiet (List.forall_mem_nil _)
  · rw [printValue_ok true tape hwrite, printValue_ok false tape hwrite']
    exact .shown (List.forall_mem_nil _) hread hread' hline

section Verbs

variable (client : Client) (input : String) (arguments : Arguments)

/-- A content is read in the same way for both audiences. -/
theorem alike_runGet : (runGet client true arguments).Alike (runGet client false arguments) :=
  .after (client.isQuiet_getContent _ _) fun _ => alike_printValue _

theorem alike_runCreate :
    (runCreate client true input arguments).Alike (runCreate client false input arguments) := by
  refine .after (Job.isQuiet_lift _) fun data => .after (client.isQuiet_create ..) fun found => ?_
  cases found <;> exact alike_printValue _

theorem alike_runUpdate :
    (runUpdate client true input arguments).Alike (runUpdate client false input arguments) := by
  refine .after (Job.isQuiet_lift _) fun data => .after (client.isQuiet_update ..) fun found => ?_
  cases found <;> exact alike_printValue _

theorem alike_runDelete :
    (runDelete client true arguments).Alike (runDelete client false arguments) :=
  .after (client.isQuiet_deleteContent ..) fun _ => .after (Job.isQuiet_lift _) fun _ =>
    alike_printValue _

theorem alike_runAction (action : StatusAction) :
    (runAction client true action arguments).Alike (runAction client false action arguments) := by
  refine .after (client.isQuiet_changeStatus ..) fun found => ?_
  cases found <;> exact alike_printValue _

end Verbs

variable (arguments : List String) (env : Environment) (input : String)

/-- Every wish but a help text and a listing is fulfilled alike. -/
theorem alike_fulfil (own : Arguments) {wish : Wish} (hhelp : ∀ text, wish ≠ .help text)
    (hlist : ∀ given, wish ≠ .content .list given) :
    (fulfil ⟨arguments, env, input, true⟩ own wish).Alike
      (fulfil ⟨arguments, env, input, false⟩ own wish) := by
  cases wish with
  | help text => exact absurd rfl (hhelp text)
  | query given =>
    exact .after (Job.isQuiet_lift _) fun query => .after (Job.isQuiet_lift _) fun parameters =>
      alike_printValue _
  | content verb given =>
    refine .after (Job.isQuiet_lift _) fun client => ?_
    cases verb with
    | list => exact absurd rfl (hlist given)
    | get => exact alike_runGet client given
    | create => exact alike_runCreate client input given
    | update => exact alike_runUpdate client input given
    | delete => exact alike_runDelete client given
    | change action => exact alike_runAction client given action

/-- Jobs that part in the layout end the program so: a fault is reported to both. -/
theorem alike_concluding {human machine : Job Unit} (h : human.Alike machine) :
    (concluding true human).Alike (concluding false machine) := by
  intro tape
  have halike := h tape
  rcases hhuman : human tape with ⟨result, events, rest⟩
  rcases hmachine : machine tape with ⟨result', events', rest'⟩
  rw [hhuman, hmachine] at halike
  cases halike with
  | shown hquiet hread hread' hline =>
    rw [concluding_ok hhuman, concluding_ok hmachine]
    exact .shown hquiet hread hread' hline
  | quiet hquiet =>
    cases result with
    | ok a =>
      rw [concluding_ok hhuman, concluding_ok hmachine]
      exact .quiet hquiet
    | error f =>
      cases hreport : Failure.report? f with
      | none =>
        rw [concluding_raised true hhuman hreport, concluding_raised false hmachine hreport]
        exact .quiet hquiet
      | some report =>
        -- the report is a value like any other, printed behind what the job has shown
        rcases write_audiences (.dict report) with
          ⟨g, hwrite, hwrite'⟩ | ⟨s, s', w, hwrite, hwrite', hread, hread', hline⟩
        · rw [concluding_unwritten true hhuman hreport hwrite,
            concluding_unwritten false hmachine hreport hwrite']
          exact .quiet hquiet
        · rw [concluding_reported true hhuman hreport hwrite,
            concluding_reported false hmachine hreport hwrite']
          exact .shown hquiet hread hread' hline

/-! ## The program -/

/-- A person at a terminal and a pipe are told the same by every command but a listing. The two runs
end the same, after the same requests and the same delays, and leave the same of the network. Where
the pipe is given a line that holds a JSON value, the person is given a JSON text that is read as
the same value, and, help texts apart, the other way round. -/
theorem audiences_agree {arguments : List String}
    (hlist : ∀ asked given, readArguments arguments = .ok asked →
      asked.wish ≠ .content .list given)
    (env : Environment) (input : String) (tape : Tape) :
    let human := run ⟨arguments, env, input, true⟩ tape
    let machine := run ⟨arguments, env, input, false⟩ tape
    human.result = machine.result ∧ human.requests = machine.requests ∧
      human.delays = machine.delays ∧ human.rest = machine.rest ∧
      (∀ v, IsLine (standardOutput machine.events) v → IsJson (standardOutput human.events) v) ∧
      (asksForHelp arguments = false → ∀ v, IsJson (standardOutput human.events) v →
        IsLine (standardOutput machine.events) v) := by
  dsimp only
  have hsame : ∀ ran : Run Ending, ∀ v, IsLine (standardOutput ran.events) v →
      IsJson (standardOutput ran.events) v := by
    rintro ran v ⟨line, hline, -, hv⟩
    exact ⟨line, hline, hv⟩
  rw [asksForHelp, run, run]
  cases hread : readArguments arguments with
  | error refusal =>
    cases refusal with
    | help text => exact ⟨rfl, rfl, rfl, rfl, hsame _, Bool.noConfusion⟩
    | mistake form message =>
      refine ⟨rfl, rfl, rfl, rfl, hsame _, ?_⟩
      rintro - v ⟨text, htext, -⟩
      have hempty : "" = text ++ "\n" := htext
      exact absurd (congrArg String.toList hempty) (by simp)
  | ok asked =>
    obtain ⟨own, wish⟩ := asked
    by_cases hhelp : ∃ text, wish = .help text
    · obtain ⟨text, rfl⟩ := hhelp
      have hprints : ∀ terminal, concluding terminal (Job.emit (.printed text)) tape =
          ⟨.ok (.exit 0), [.printed text], tape⟩ := fun terminal => concluding_ok rfl
      dsimp only [fulfil]
      rw [hprints, hprints]
      exact ⟨rfl, rfl, rfl, rfl, hsame _, Bool.noConfusion⟩
    · have halike := alike_concluding (alike_fulfil arguments env input own
        (fun text htext => hhelp ⟨text, htext⟩) (fun given => hlist _ given hread)) tape
      exact ⟨halike.result_eq, halike.requests_eq, halike.delays_eq, halike.rest_eq,
        fun v => (halike.isLine_iff v).mp, fun _ v => (halike.isLine_iff v).mpr⟩

/-- What is told of a schema that is not known. -/
def unknownSchemaReport : Fields :=
  [("error", .text "HTTP Error 404: Not Found"), ("kind", .text "not_found"),
    ("status", .int 404), ("retryable", .bool false)]

/-- Of a content in a schema that is not known, a person is told what a pipe is told. -/
theorem audiences_agree_refused :
    let human := run (reading "s" "i" localEnvironment "" true) [unknownSchema]
    human.result = .ok (.exit 1) ∧ human.requests.length = 1 ∧
      IsJson (standardOutput human.events) (.dict unknownSchemaReport) := by
  let own : Arguments := ⟨[], [], some ("content", ["get", "s", "i"])⟩
  let arguments : Arguments := ⟨[("schema", .text "s"), ("content_id", .text "i")], [], none⟩
  have hread : readArguments ["content", "get", "s", "i"] =
      .ok ⟨own, .content .get arguments⟩ := rfl
  have hopen : openClient localEnvironment own = .ok localClient := rfl
  obtain ⟨h, request, hcontent⟩ : ∃ h request,
      localClient.getContent (.text "s") (.text "i") [unknownSchema] =
        ⟨.error unknownSchemaFault, [Client.Heading.attempt h, .sent request], []⟩ := ⟨_, _, rfl⟩
  have hget : runGet localClient false arguments [unknownSchema] =
      ⟨.error unknownSchemaFault, [h.attempt, .sent request], []⟩ := Job.bind_of_error hcontent
  have hreport : Failure.report? unknownSchemaFault = some unknownSchemaReport := rfl
  obtain ⟨s, hwrite⟩ : ∃ s, Json.write .oneLine .lenient (.dict unknownSchemaReport) = .ok s :=
    ⟨_, rfl⟩
  -- the pipe is given the line of the report
  have hmachine : run (reading "s" "i" localEnvironment "" false) [unknownSchema] =
      ⟨.ok (.exit 1), [h.attempt, .sent request, .printed (s ++ "\n")], []⟩ := by
    rw [run, reading, hread]
    have hfulfil : fulfil (reading "s" "i" localEnvironment "" false) own
        (.content .get arguments) = runGet localClient false arguments := by
      rw [fulfil, reading, hopen, Job.ok_bind]
      rfl
    exact concluding_reported false (hfulfil ▸ hget) hreport hwrite
  obtain ⟨w, hw, hline⟩ := isLine_of_write hwrite
  obtain rfl : w = .dict unknownSchemaReport := by
    cases hw
    rfl
  have hlist : ∀ asked given, readArguments ["content", "get", "s", "i"] = .ok asked →
      asked.wish ≠ .content .list given := by
    intro asked given hasked hwish
    cases hread.symm.trans hasked
    cases hwish
  obtain ⟨hresult, hrequests, -, -, hshown, -⟩ :=
    audiences_agree hlist localEnvironment "" [unknownSchema]
  dsimp only [reading] at hmachine ⊢
  rw [hmachine] at hresult hrequests hshown
  rw [hresult, hrequests]
  exact ⟨rfl, rfl, hshown _ hline⟩

end Command

end ContentGateway
