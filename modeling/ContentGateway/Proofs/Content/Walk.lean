import Mathlib
import ContentGateway.Content.Walk
import ContentGateway.Proofs.Transport.Attempts
import ContentGateway.Proofs.Value.Fields

/-!
# Steps of a walk

A walk fetches a page, delivers its contents and moves on by their number. Here is what one step
does with the run of its fetch, and what a page and its request are made of.
-/

namespace ContentGateway

namespace Walk

variable {fetch : Value → Job Page} {steps : ℕ} {offset : Value} {tape rest : Tape} {page : Page}
  {events : List Event}

/-- A walk whose contents and events come behind others. -/
def ahead (items : List Content) (events : List Event) (run : Run Delivery) : Run Delivery :=
  ⟨run.result.map fun later => ⟨items ++ later.items, later.stoppedBy⟩, events ++ run.events,
    run.rest⟩

/-- A page with another one behind it comes ahead of the rest of the walk if more is wanted. -/
theorem pagesFrom_ahead {limit left : Option ℕ} {next : Value}
    (hfetch : fetch offset tape = ⟨.ok page, events, rest⟩)
    (hleft : leftOf limit page.items.length = some left)
    (hnext : nextOffset offset page = .ok (some next)) :
    pagesFrom fetch (steps + 1) limit offset tape =
      ahead page.items events (pagesFrom fetch steps left next rest) := by
  rw [pagesFrom, Job.bind_of_ok (Job.attempt_eq hfetch)]
  simp only [hleft, hnext, ahead]
  rcases hlater : pagesFrom fetch steps left next rest with ⟨result, more, behind⟩
  cases result with
  | error f =>
    rw [Job.bind_of_error hlater]
    rfl
  | ok later =>
    rw [Job.bind_of_ok hlater]
    simp only [Job.pure_eq, Run.behind, List.append_nil]
    rfl

/-- A page with as much as is wanted ends the walk within it. -/
theorem pagesFrom_enough {n : ℕ} (hfetch : fetch offset tape = ⟨.ok page, events, rest⟩)
    (hn : n ≤ page.items.length) :
    pagesFrom fetch (steps + 1) (some n) offset tape =
      ⟨.ok ⟨page.items.take n, none⟩, events, rest⟩ := by
  rw [pagesFrom, Job.bind_of_ok (Job.attempt_eq hfetch)]
  simp only [leftOf, if_pos hn, Option.getD_some, Job.pure_eq, Run.behind, List.append_nil]

/-- A page without another one behind it ends the walk. -/
theorem pagesFrom_end {limit left : Option ℕ}
    (hfetch : fetch offset tape = ⟨.ok page, events, rest⟩)
    (hleft : leftOf limit page.items.length = some left)
    (hnext : nextOffset offset page = .ok none) :
    pagesFrom fetch (steps + 1) limit offset tape = ⟨.ok ⟨page.items, none⟩, events, rest⟩ := by
  rw [pagesFrom, Job.bind_of_ok (Job.attempt_eq hfetch)]
  simp only [hleft, hnext, Job.pure_eq, Run.behind, List.append_nil]

/-- Without a limit, a page without another one behind it ends the walk. -/
theorem pagesFrom_last (hfetch : fetch offset tape = ⟨.ok page, events, rest⟩)
    (hnext : nextOffset offset page = .ok none) :
    pagesFrom fetch (steps + 1) none offset tape = ⟨.ok ⟨page.items, none⟩, events, rest⟩ :=
  pagesFrom_end hfetch rfl hnext

/-- Without a limit, a page with another one behind it comes ahead of the rest of the walk. -/
theorem pagesFrom_next {next : Value} {later : Delivery} {more : List Event} {left : Tape}
    (hfetch : fetch offset tape = ⟨.ok page, events, rest⟩)
    (hnext : nextOffset offset page = .ok (some next))
    (hlater : pagesFrom fetch steps none next rest = ⟨.ok later, more, left⟩) :
    pagesFrom fetch (steps + 1) none offset tape =
      ⟨.ok ⟨page.items ++ later.items, later.stoppedBy⟩, events ++ more, left⟩ := by
  rw [pagesFrom_ahead hfetch rfl hnext, hlater]
  rfl

/-- A page that is not got stops the walk. -/
theorem pagesFrom_stopped {limit : Option ℕ} {f : Fault}
    (hfetch : fetch offset tape = ⟨.error f, events, rest⟩) :
    pagesFrom fetch (steps + 1) limit offset tape = ⟨.ok ⟨[], some f⟩, events, rest⟩ := by
  rw [pagesFrom, Job.bind_of_ok (Job.attempt_eq hfetch)]
  simp only [Job.pure_eq, Run.behind, List.append_nil]

/-- A page from which the walk cannot go on stops it behind the contents of the page. -/
theorem pagesFrom_stuck {f : Fault} (hfetch : fetch offset tape = ⟨.ok page, events, rest⟩)
    (hnext : nextOffset offset page = .error f) :
    pagesFrom fetch (steps + 1) none offset tape = ⟨.ok ⟨page.items, some f⟩, events, rest⟩ := by
  rw [pagesFrom, Job.bind_of_ok (Job.attempt_eq hfetch)]
  simp only [leftOf, hnext, Job.pure_eq, Run.behind, List.append_nil]

/-- A walk delivers something, whatever stops it. -/
theorem pagesFrom_delivers (fetch : Value → Job Page) (steps : ℕ) (limit : Option ℕ)
    (offset : Value) (tape : Tape) : ∃ delivery events rest,
      pagesFrom fetch steps limit offset tape = ⟨.ok delivery, events, rest⟩ := by
  induction steps generalizing limit offset tape with
  | zero => exact ⟨_, _, _, rfl⟩
  | succ steps ih =>
    rcases hfetch : fetch offset tape with ⟨result, events, rest⟩
    rw [pagesFrom, Job.bind_of_ok (Job.attempt_eq hfetch)]
    cases result with
    | error f => exact ⟨_, _, _, rfl⟩
    | ok page =>
      dsimp only
      cases leftOf limit page.items.length with
      | none => exact ⟨_, _, _, rfl⟩
      | some left =>
        dsimp only
        rcases nextOffset offset page with f | _ | next
        · exact ⟨_, _, _, rfl⟩
        · exact ⟨_, _, _, rfl⟩
        · obtain ⟨delivery, more, behind, hlater⟩ := ih left next rest
          dsimp only
          rw [Job.bind_of_ok hlater]
          exact ⟨_, _, _, rfl⟩

/-- Behind a page, the offset has moved by its contents; the walk ends where that reaches the total
or the page is empty. -/
theorem nextOffset_int {o total : ℤ} {items : List Content} :
    nextOffset (.int o) ⟨.int total, items⟩ =
      .ok (if total ≤ o + items.length ∨ items = [] then none
        else some (.int (o + items.length))) := by
  have hplus : (Value.int o).plus items.length = .ok (.int (o + items.length)) := rfl
  rw [nextOffset, hplus]
  simp only [bind, Except.bind, Value.atLeast_int, pure, Except.pure]
  by_cases htotal : total ≤ o + items.length <;> by_cases hitems : items = [] <;>
    simp [htotal, hitems]

/-- A page that neither ends the walk nor leads on holds a value that does not fit. -/
theorem nextOffset_misfit (offset : Value) (page : Page) :
    OnlyMisfits (nextOffset offset page) := by
  have hplus : OnlyMisfits (offset.plus page.items.length) := by
    refine .bind (onlyMisfits_number offset) fun n => .bind ?_ fun moved => onlyMisfits_pure _
    cases n with
    | int i => exact onlyMisfits_ok _
    | float x =>
      refine .bind ?_ fun y => onlyMisfits_pure _
      rw [Number.toBinary64]
      split
      · exact onlyMisfits_ok _
      · exact onlyMisfits_error trivial
  refine hplus.bind fun next => .bind (Value.atLeast_misfit next page.total) fun reached => ?_
  split <;> exact onlyMisfits_pure _

end Walk

/-! ## Pages and their requests -/

/-- The parameters of a page are those of the selection but for its size and its place. -/
theorem pageParameters_find? (parameters : Fields) (size offset : Value) {name : String}
    (htop : name ≠ "$top") (hskip : name ≠ "$skip") :
    Fields.find? name (Walk.pageParameters parameters size offset) =
      Fields.find? name parameters := by
  rw [Walk.pageParameters, Fields.find?_put_ne hskip, Fields.find?_put_ne htop]

/-- The parameters of a page ask for its size and its place. -/
theorem pageParameters_get (parameters : Fields) (size offset : Value) :
    Fields.get (Walk.pageParameters parameters size offset) "$top" = size ∧
      Fields.get (Walk.pageParameters parameters size offset) "$skip" = offset := by
  rw [Walk.pageParameters, Fields.get, Fields.get, Fields.find?_put_self,
    Fields.find?_put_ne (by decide), Fields.find?_put_self]
  exact ⟨rfl, rfl⟩

/-- A fetch fails with its call. -/
theorem listPage_error {client : Client} {schema : Value} {path : String}
    (hpath : Path.collection schema = .ok path) {parameters : Fields} {tape rest : Tape} {f : Fault}
    {events : List Event}
    (hcall : client.perform { Call.plain "GET" path with parameters } tape =
      ⟨.error f, events, rest⟩) :
    client.listPage schema parameters tape = ⟨.error f, events, rest⟩ := by
  rw [Client.listPage, hpath, Job.ok_bind, Job.bind_of_error (by rw [Client.get]; exact hcall)]

/-- A fetch is the run of one call, whose value is read as a page. -/
theorem listPage_run {client : Client} {schema : Value} {path : String}
    (hpath : Path.collection schema = .ok path) {parameters : Fields} {tape rest : Tape} {v : Value}
    {events : List Event}
    (hcall : client.perform { Call.plain "GET" path with parameters } tape =
      ⟨.ok v, events, rest⟩) :
    client.listPage schema parameters tape = ⟨Page.ofReply v, events, rest⟩ := by
  rw [Client.listPage, hpath, Job.ok_bind]
  exact Job.bind_lift_of_ok hcall Page.ofReply

/-- A fetch shows what its call shows, and leaves what that leaves. -/
theorem listPage_eq {client : Client} {schema : Value} {path : String}
    (hpath : Path.collection schema = .ok path) (parameters : Fields) (tape : Tape) :
    let call := client.perform { Call.plain "GET" path with parameters } tape
    client.listPage schema parameters tape =
      ⟨call.result.bind Page.ofReply, call.events, call.rest⟩ := by
  rcases hcall : client.perform { Call.plain "GET" path with parameters } tape with
    ⟨result, events, rest⟩
  cases result with
  | error f => exact listPage_error hpath hcall
  | ok v => exact listPage_run hpath hcall

end ContentGateway
