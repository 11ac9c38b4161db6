import Mathlib
import ContentGateway.Proofs.Content.Walk
import ContentGateway.Proofs.Transport.Copies

/-!
# Quiet jobs

What a client does shows on the network and in notices only: its jobs print nothing. They take the
outcomes of the tape in order, so what is left is an end of the tape. Both hold of a job put
together from jobs of which they hold.

A walk fails with the fault of one of its steps: the page that it stopped at was not got from the
outcomes that the pages before had left, or leads nowhere.
-/

namespace ContentGateway

/-- Whether an event is none that the program itself shows. -/
def Event.IsQuiet : Event → Prop
  | .printed _ | .complained _ => False
  | _ => True

/-- A notice or a wait is none that the program itself shows. -/
theorem Event.IsAside.isQuiet {e : Event} (h : e.IsAside) : e.IsQuiet := by
  cases e with
  | printed | complained => exact h.elim
  | _ => trivial

/-- Whether a job prints nothing and leaves an end of its tape. -/
structure Job.IsQuiet {α : Type} (t : Job α) : Prop where
  events : ∀ tape, ∀ e ∈ (t tape).events, e.IsQuiet
  rest : ∀ tape, (t tape).rest <:+ tape

namespace Job

variable {α β : Type} {first : Job α} {next : α → Job β}

/-- A job is quiet if each of its runs is. -/
theorem isQuiet_of_run {t : Job α}
    (h : ∀ tape, (∀ e ∈ (t tape).events, e.IsQuiet) ∧ (t tape).rest <:+ tape) : t.IsQuiet :=
  ⟨fun tape => (h tape).1, fun tape => (h tape).2⟩

/-- A pure step is quiet. -/
theorem isQuiet_lift (step : Except Fault α) : (liftM step : Job α).IsQuiet :=
  ⟨fun _ _ he => absurd he List.not_mem_nil, List.suffix_refl⟩

theorem isQuiet_pure (a : α) : (pure a : Job α).IsQuiet :=
  ⟨fun _ _ he => absurd he List.not_mem_nil, List.suffix_refl⟩

theorem isQuiet_fail (f : Fault) : (fail f : Job α).IsQuiet :=
  ⟨fun _ _ he => absurd he List.not_mem_nil, List.suffix_refl⟩

theorem isQuiet_emit {e : Event} (h : e.IsQuiet) : (emit e).IsQuiet :=
  ⟨fun _ => List.forall_mem_singleton.mpr h, List.suffix_refl⟩

/-- A quiet job whose fault is caught is quiet. -/
theorem IsQuiet.attempt {t : Job α} (h : t.IsQuiet) : t.attempt.IsQuiet := ⟨h.events, h.rest⟩

/-- Quiet jobs one behind the other are quiet. -/
theorem IsQuiet.bind (hfirst : first.IsQuiet) (hnext : ∀ a, (next a).IsQuiet) :
    (first >>= next).IsQuiet := by
  refine isQuiet_of_run fun tape => ?_
  have hevents := hfirst.events tape
  have hrest := hfirst.rest tape
  rcases hrun : first tape with ⟨result, events, rest⟩
  rw [hrun] at hevents hrest
  cases result with
  | error f =>
    rw [bind_of_error hrun]
    exact ⟨hevents, hrest⟩
  | ok a =>
    rw [bind_of_ok hrun]
    refine ⟨fun e he => ?_, ((hnext a).rest rest).trans hrest⟩
    rcases List.mem_append.mp he with he | he
    · exact hevents e he
    · exact (hnext a).events rest e he

end Job

/-! ## Calls -/

namespace Client

variable (client : Client)

/-- Attempts are quiet. By induction on the tape. -/
theorem isQuiet_attempts (h : Heading) (request : Request) (retries : ℕ) :
    (client.attempts h request retries).IsQuiet := by
  refine Job.isQuiet_of_run fun tape => ?_
  have hsent : ∀ events : List Event, (∀ e ∈ events, e.IsQuiet) →
      ∀ e ∈ h.attempt :: .sent request :: events, e.IsQuiet := fun events hevents =>
    List.forall_mem_cons.mpr ⟨trivial, List.forall_mem_cons.mpr ⟨trivial, hevents⟩⟩
  induction tape generalizing retries with
  | nil => exact ⟨hsent [] (List.forall_mem_nil _), List.suffix_refl []⟩
  | cons outcome tape ih =>
    have hafter := client.afterOutcome_aside h retries request.timeout outcome
    rw [attempts]
    rcases hnext : client.afterOutcome h retries request.timeout outcome with
      ⟨events, result⟩ | events
    · rw [hnext] at hafter
      exact ⟨hsent events fun e he => (hafter e he).isQuiet, List.suffix_cons outcome tape⟩
    · rw [hnext] at hafter
      obtain ⟨hlater, hrest⟩ := ih (retries + 1)
      refine ⟨fun e he => ?_, hrest.trans (List.suffix_cons outcome tape)⟩
      rcases List.mem_append.mp he with he | he
      · exact hsent events (fun e he => (hafter e he).isQuiet) e he
      · exact hlater e he

/-- Sending a request is quiet, however often it is made again. -/
theorem isQuiet_send (method address : String) (headers : Fields) (body : Option String) :
    (client.send method address headers body).IsQuiet := by
  unfold send
  cases Request.assemble client.settings method address headers body with
  | ok request => exact client.isQuiet_attempts _ request 0
  | error f =>
    have hnotice : (Heading.attempt ⟨method, address⟩).IsQuiet := trivial
    exact (Job.isQuiet_emit hnotice).bind fun _ => Job.isQuiet_fail f

/-- A call prints nothing. -/
theorem isQuiet_perform (call : Call) : (client.perform call).IsQuiet := by
  unfold perform
  exact .bind (Job.isQuiet_lift _) fun address => .bind (Job.isQuiet_lift _) fun headers =>
    .bind (Job.isQuiet_lift _) fun body => client.isQuiet_send call.method address headers body

/-! ## Operations -/

theorem isQuiet_listPage (schema : Value) (parameters : Fields) :
    (client.listPage schema parameters).IsQuiet :=
  .bind (Job.isQuiet_lift _) fun _ => .bind (client.isQuiet_perform _) fun _ => Job.isQuiet_lift _

theorem isQuiet_list (schema : Value) (selection : Selection) :
    (client.list schema selection).IsQuiet :=
  .bind (Job.isQuiet_lift _) fun _ => .bind (Job.isQuiet_lift _) fun _ =>
    .bind (client.isQuiet_perform _) fun _ => Job.isQuiet_lift _

theorem isQuiet_getContent (schema id : Value) : (client.getContent schema id).IsQuiet := by
  refine .bind (Job.isQuiet_lift _) fun path => .bind (client.isQuiet_perform _) fun reply =>
    .bind (Job.isQuiet_lift _) fun found => ?_
  cases found with
  | some c => exact Job.isQuiet_pure c
  | none => exact .bind (Job.isQuiet_lift _) fun f => Job.isQuiet_fail f

theorem isQuiet_create (schema data : Value) (options : CreateOptions) :
    (client.create schema data options).IsQuiet :=
  .bind (Job.isQuiet_lift _) fun _ => .bind (client.isQuiet_perform _) fun _ => Job.isQuiet_lift _

theorem isQuiet_update (schema id data : Value) (options : UpdateOptions) :
    (client.update schema id data options).IsQuiet := by
  refine .bind (Job.isQuiet_lift _) fun headers => .bind (Job.isQuiet_lift _) fun path => ?_
  split
  · exact .bind (client.isQuiet_perform _) fun _ => Job.isQuiet_lift _
  · exact .bind (client.isQuiet_perform _) fun _ => Job.isQuiet_lift _

theorem isQuiet_deleteContent (schema id : Value) (options : DeleteOptions) :
    (client.deleteContent schema id options).IsQuiet :=
  .bind (Job.isQuiet_lift _) fun _ => .bind (client.isQuiet_perform _) fun _ => Job.isQuiet_pure ()

theorem isQuiet_changeStatus (schema id : Value) (action : StatusAction) :
    (client.changeStatus schema id action).IsQuiet :=
  .bind (Job.isQuiet_lift _) fun _ => .bind (client.isQuiet_perform _) fun _ => Job.isQuiet_lift _

end Client

/-! ## Walks -/

namespace Walk

variable {fetch : Value → Job Page} (hfetch : ∀ offset, (fetch offset).IsQuiet)

include hfetch

/-- A walk by quiet fetches is quiet. By induction on its steps. -/
theorem isQuiet_pagesFrom (steps : ℕ) (limit : Option ℕ) (offset : Value) :
    (pagesFrom fetch steps limit offset).IsQuiet := by
  induction steps generalizing limit offset with
  | zero => exact Job.isQuiet_pure _
  | succ steps ih =>
    rw [pagesFrom]
    refine (hfetch offset).attempt.bind fun outcome => ?_
    split
    · exact Job.isQuiet_pure _
    · split
      · exact Job.isQuiet_pure _
      · split
        · exact Job.isQuiet_pure _
        · exact Job.isQuiet_pure _
        · exact (ih _ _).bind fun later => Job.isQuiet_pure _

/-- The fault of a stopped walk is that of a page: it was not got from the outcomes that the pages
before had left, or nothing can come behind it. -/
theorem pagesFrom_stoppedBy {steps : ℕ} {limit : Option ℕ} {offset : Value} {tape : Tape}
    {delivery : Delivery} {f : Fault}
    (h : (pagesFrom fetch steps limit offset tape).result = .ok delivery)
    (hf : delivery.stoppedBy = some f) :
    f = .tapeExhausted ∨ ∃ place rest, rest <:+ tape ∧
      ((fetch place rest).result = .error f ∨
        ∃ page, (fetch place rest).result = .ok page ∧ nextOffset place page = .error f) := by
  induction steps generalizing limit offset tape delivery with
  | zero =>
    cases h
    exact .inl (Option.some.inj hf).symm
  | succ steps ih =>
    rcases hrun : fetch offset tape with ⟨result, events, rest⟩
    have hresult : (fetch offset tape).result = result := by rw [hrun]
    have hrest : rest <:+ tape := by
      have := (hfetch offset).rest tape
      rwa [hrun] at this
    rw [pagesFrom, Job.bind_of_ok (Job.attempt_eq hrun)] at h
    cases result with
    | error g =>
      cases h
      cases hf
      exact .inr ⟨offset, tape, List.suffix_refl tape, .inl hresult⟩
    | ok page =>
      dsimp only at h
      cases hleft : leftOf limit page.items.length with
      | none =>
        simp only [hleft] at h
        cases h
        cases hf
      | some left =>
        simp only [hleft] at h
        cases hnext : nextOffset offset page with
        | error g =>
          simp only [hnext] at h
          cases h
          cases hf
          exact .inr ⟨offset, tape, List.suffix_refl tape, .inr ⟨page, hresult, hnext⟩⟩
        | ok next =>
          cases next with
          | none =>
            simp only [hnext] at h
            cases h
            cases hf
          | some next =>
            simp only [hnext] at h
            obtain ⟨later, more, behind, hlater⟩ := pagesFrom_delivers fetch steps left next rest
            rw [Job.bind_of_ok hlater] at h
            cases h
            refine (ih (congrArg Run.result hlater) hf).imp_right ?_
            rintro ⟨place, left, hsuffix, hfault⟩
            exact ⟨place, left, hsuffix.trans hrest, hfault⟩

end Walk

namespace Client

variable (client : Client)

/-- A walk prints nothing. -/
theorem isQuiet_walk (schema : Value) (selection : Selection) (size : Value) (limit : Option ℕ) :
    (client.walk schema selection size limit).IsQuiet := by
  refine Job.isQuiet_of_run fun tape => ?_
  have hdone : ∀ delivery : Delivery, (pure delivery : Job Delivery).IsQuiet := Job.isQuiet_pure
  rw [walk]
  split
  · exact ⟨(hdone _).events tape, (hdone ⟨[], none⟩).rest tape⟩
  · split
    · next f _ => exact ⟨(hdone _).events tape, (hdone ⟨[], some f⟩).rest tape⟩
    · next parameters _ =>
      have hpages := fun offset => Walk.isQuiet_pagesFrom (fun offset =>
        client.isQuiet_listPage schema (Walk.pageParameters parameters size offset))
        (tape.length + 1) limit offset
      exact ⟨(hpages _).events tape, (hpages _).rest tape⟩

theorem isQuiet_listAll (schema : Value) (selection : Selection) :
    (client.listAll schema selection).IsQuiet := by
  refine (client.isQuiet_walk schema selection _ none).bind fun delivery => ?_
  cases delivery.stoppedBy with
  | none => exact Job.isQuiet_pure _
  | some f => exact Job.isQuiet_fail f

/-- Where all contents are asked for and none are given, the selection does not compile, or the call
of one page fails so on the outcomes that are left to it. Nothing but that call has a part in the
fault. -/
theorem listAll_error {schema : Value} {selection : Selection} {tape : Tape} {f : Fault}
    (h : (client.listAll schema selection tape).result = .error f) (hmisfit : ¬ f.IsMisfit)
    (hover : f ≠ .tapeExhausted) :
    selection.compile = .error f ∨ ∃ parameters place rest, selection.compile = .ok parameters ∧
      rest <:+ tape ∧ (client.listPage schema
        (Walk.pageParameters parameters Walk.standardPageSize place) rest).result = .error f := by
  rw [listAll] at h
  cases hcompile : selection.compile with
  | error g =>
    have hwalk : client.walk schema selection Walk.standardPageSize none tape =
        ⟨.ok ⟨[], some g⟩, [], tape⟩ := by
      rw [walk, if_neg (by simp), hcompile]
    rw [Job.bind_of_ok hwalk] at h
    cases h
    exact .inl rfl
  | ok parameters =>
    obtain ⟨delivery, events, left, hpages⟩ := Walk.pagesFrom_delivers (fun offset =>
      client.listPage schema (Walk.pageParameters parameters Walk.standardPageSize offset))
      (tape.length + 1) none ((Fields.get parameters "$skip").orElse (.int 0)) tape
    have hwalk : client.walk schema selection Walk.standardPageSize none tape =
        ⟨.ok delivery, events, left⟩ := by
      rw [walk, if_neg (by simp), hcompile]
      exact hpages
    rw [Job.bind_of_ok hwalk] at h
    cases hstopped : delivery.stoppedBy with
    | none =>
      simp only [hstopped] at h
      cases h
    | some g =>
      simp only [hstopped] at h
      cases h
      rcases Walk.pagesFrom_stoppedBy (fun offset => client.isQuiet_listPage schema
        (Walk.pageParameters parameters Walk.standardPageSize offset))
        (congrArg Run.result hpages) hstopped with hg | ⟨place, rest, hrest, hg | ⟨page, -, hg⟩⟩
      · exact absurd hg hover
      · exact .inr ⟨parameters, place, rest, rfl, hrest, hg⟩
      · exact absurd (Walk.nextOffset_misfit _ _ _ hg) hmisfit

end Client

end ContentGateway
