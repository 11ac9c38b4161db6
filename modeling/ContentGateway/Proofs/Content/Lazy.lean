import Mathlib
import ContentGateway.Proofs.Content.Paging
import ContentGateway.Proofs.Content.Replies
import ContentGateway.Proofs.Transport.Copies

/-!
# Walks that are read as far as wanted

A walk is a *course* of pages. Each is asked for at the offset that the pages before lead to, and
answered in any way: by less or more contents than were asked for, by another total, or not at all.
Whoever reads the walk gets the contents of the pages in order, and nothing is asked for that was
not wanted: the walk has made the requests of the pages up to the one that holds the last content it
was asked for, or up to the one that ends it.
-/

namespace ContentGateway

namespace Walk

/-! ## Courses -/

/-- What becomes of the page requests of a walk, one after the other: the total that each reply says
and the contents that it holds, what is seen meanwhile, and the outcomes that are there for it. -/
structure Course where
  total : ℕ → ℤ
  items : ℕ → List Content
  events : ℕ → List Event
  tape : ℕ → Tape

namespace Course

variable (c : Course) (start : ℤ) (fetch : Value → Job Page)

def contents (k : ℕ) : List Content := (List.range k).flatMap c.items

/-- What is seen of the requests for the first pages. -/
def seen (k : ℕ) : List Event := (List.range k).flatMap c.events

/-- The offset of a page: as many contents behind the start as the pages before hold. -/
def offset (k : ℕ) : ℤ := start + ∑ i ∈ Finset.range k, ((c.items i).length : ℤ)

/-- The contents of one more page come behind those of the pages before. -/
theorem contents_succ (k : ℕ) : c.contents (k + 1) = c.contents k ++ c.items k := by
  rw [contents, List.range_succ, List.flatMap_append, List.flatMap_singleton]
  rfl

/-- So does what is seen of its request. -/
theorem seen_succ (k : ℕ) : c.seen (k + 1) = c.seen k ++ c.events k := by
  rw [seen, List.range_succ, List.flatMap_append, List.flatMap_singleton]
  rfl

theorem offset_zero : c.offset start 0 = start := by
  rw [offset, Finset.sum_range_zero, add_zero]

/-- The offset behind a page is as many contents further on as the page holds. -/
theorem offset_succ (k : ℕ) : c.offset start (k + 1) = c.offset start k + (c.items k).length := by
  rw [offset, offset, Finset.sum_range_succ, add_assoc]

/-- Whether a page is got at its offset. -/
def Gets (k : ℕ) : Prop :=
  fetch (.int (c.offset start k)) (c.tape k) =
    ⟨.ok ⟨.int (c.total k), c.items k⟩, c.events k, c.tape (k + 1)⟩

/-- Whether a page is the last: it holds nothing, or the total is reached with it. -/
def IsLast (k : ℕ) : Prop := c.items k = [] ∨ c.total k ≤ c.offset start (k + 1)

/-- Whether the first pages are got and each of them leads to another. -/
structure LeadsTo (k : ℕ) : Prop where
  gets : ∀ i < k, c.Gets start fetch i
  goesOn : ∀ i < k, ¬ c.IsLast start i

theorem leadsTo_zero : c.LeadsTo start fetch 0 :=
  ⟨fun i hi => absurd hi (Nat.not_lt_zero i), fun i hi => absurd hi (Nat.not_lt_zero i)⟩

variable {c start fetch} {k : ℕ}

/-- If pages lead on, so do fewer of them. -/
theorem LeadsTo.of_succ (h : c.LeadsTo start fetch (k + 1)) : c.LeadsTo start fetch k :=
  ⟨fun i hi => h.gets i (Nat.lt_succ_of_lt hi), fun i hi => h.goesOn i (Nat.lt_succ_of_lt hi)⟩

/-- Behind a page that is not the last the walk goes on at the next offset. -/
theorem nextOffset_goesOn (h : ¬ c.IsLast start k) :
    nextOffset (.int (c.offset start k)) ⟨.int (c.total k), c.items k⟩ =
      .ok (some (.int (c.offset start (k + 1)))) := by
  rw [IsLast, offset_succ] at h
  rw [nextOffset_int, offset_succ, if_neg (by tauto)]

/-- There is no offset behind the last page. -/
theorem nextOffset_last (h : c.IsLast start k) :
    nextOffset (.int (c.offset start k)) ⟨.int (c.total k), c.items k⟩ = .ok none := by
  rw [IsLast, offset_succ] at h
  rw [nextOffset_int, if_pos (by tauto)]

end Course

/-! ## Limits -/

/-- Whether more is wanted behind some contents. -/
def WantsMore (limit : Option ℕ) (count : ℕ) : Prop := ∀ n, limit = some n → count < n

theorem wantsMore_none (count : ℕ) : WantsMore none count := fun _ h => nomatch h

/-- While more is wanted, the limit goes down by what each page holds. -/
theorem leftOf_of_wantsMore {limit : Option ℕ} {before count : ℕ}
    (h : WantsMore limit (before + count)) :
    leftOf (limit.map (· - before)) count = some (limit.map (· - (before + count))) := by
  cases limit with
  | none => rfl
  | some n =>
    have hn : before + count < n := h n rfl
    rw [Option.map_some, leftOf, if_neg (by omega), Option.map_some, Nat.sub_sub]

/-! ## Walking behind pages -/

theorem ahead_nil (run : Run Delivery) : ahead [] [] run = run := by
  rcases run with ⟨result, events, rest⟩
  cases result <;> rfl

/-- Contents and events that come behind others come behind both. -/
theorem ahead_ahead (items items' : List Content) (events events' : List Event)
    (run : Run Delivery) :
    ahead items events (ahead items' events' run) =
      ahead (items ++ items') (events ++ events') run := by
  rcases run with ⟨result, more, rest⟩
  cases result <;> simp [ahead, Except.map]

namespace Course

variable {c : Course} {start : ℤ} {fetch : Value → Job Page} {k : ℕ}

/-- A walk that wants more than the first pages hold delivers them and goes on at the offset that
they lead to. By induction on the pages; the last of them adds one step. -/
theorem pagesFrom_leads (h : c.LeadsTo start fetch k) {limit : Option ℕ}
    (hlimit : WantsMore limit (c.contents k).length) (steps : ℕ) :
    pagesFrom fetch (k + steps) limit (.int start) (c.tape 0) =
      ahead (c.contents k) (c.seen k) (pagesFrom fetch steps
        (limit.map (· - (c.contents k).length)) (.int (c.offset start k)) (c.tape k)) := by
  induction k generalizing steps with
  | zero =>
    have hall : limit.map (· - 0) = limit := by cases limit <;> rfl
    rw [offset_zero, Nat.zero_add]
    exact (congrArg (pagesFrom fetch steps · (.int start) (c.tape 0)) hall.symm).trans
      (ahead_nil _).symm
  | succ k ih =>
    rw [contents_succ, List.length_append] at hlimit
    have hbefore : WantsMore limit (c.contents k).length := fun n hn => by
      have := hlimit n hn
      omega
    have hlast := Nat.lt_succ_self k
    rw [Nat.add_right_comm, Nat.add_assoc, ih h.of_succ hbefore (steps + 1),
      pagesFrom_ahead (h.gets k hlast) (leftOf_of_wantsMore hlimit)
        (nextOffset_goesOn (h.goesOn k hlast)), ahead_ahead, contents_succ, seen_succ,
      List.length_append]

/-- Pages that are got take an outcome each. -/
theorem LeadsTo.length_le (h : c.LeadsTo start fetch k)
    (htakes : ∀ i, c.Gets start fetch i → (c.tape (i + 1)).length < (c.tape i).length) :
    k + (c.tape k).length ≤ (c.tape 0).length := by
  induction k with
  | zero => exact (Nat.zero_add _).le
  | succ k ih =>
    have hlast := htakes k (h.gets k (Nat.lt_succ_self k))
    have hbefore := ih h.of_succ
    omega

/-! ## Every network gives a course -/

/-- The course that begins with a page and goes on as another. -/
def cons (total : ℤ) (items : List Content) (events : List Event) (tape : Tape) (c : Course) :
    Course where
  total i := if i = 0 then total else c.total (i - 1)
  items i := if i = 0 then items else c.items (i - 1)
  events i := if i = 0 then events else c.events (i - 1)
  tape i := if i = 0 then tape else c.tape (i - 1)

section Cons

variable {total : ℤ} {items : List Content} {events : List Event} {tape : Tape}

/-- Behind its first page, a course is the other one from there on. -/
theorem offset_cons_succ (i : ℕ) : (cons total items events tape c).offset start (i + 1) =
    c.offset (start + items.length) i := by
  rw [offset, offset, Finset.sum_range_succ', add_assoc, add_comm (items.length : ℤ)]
  rfl

/-- Its pages are got where those of the other are. -/
theorem gets_cons_succ (i : ℕ) : (cons total items events tape c).Gets start fetch (i + 1) ↔
    c.Gets (start + items.length) fetch i := by
  rw [Gets, Gets, offset_cons_succ]
  rfl

/-- Its last page is that of the other. -/
theorem isLast_cons_succ (i : ℕ) : (cons total items events tape c).IsLast start (i + 1) ↔
    c.IsLast (start + items.length) i := by
  rw [IsLast, IsLast, offset_cons_succ]
  rfl

/-- A page that is got, and is not the last, leads to a course whose pages lead on. -/
theorem LeadsTo.cons (h : c.LeadsTo (start + items.length) fetch k)
    (hgets : (cons total items events tape c).Gets start fetch 0)
    (hgoesOn : ¬ (cons total items events tape c).IsLast start 0) :
    (Course.cons total items events tape c).LeadsTo start fetch (k + 1) where
  gets
    | 0, _ => hgets
    | i + 1, hi => (gets_cons_succ i).mpr (h.gets i (by omega))
  goesOn
    | 0, _ => hgoesOn
    | i + 1, hi => fun hlast => h.goesOn i (by omega) ((isLast_cons_succ i).mp hlast)

end Cons

/-- Where pages take outcomes every tape gives a course: pages that lead on, and behind them the
last page, or one that is not got, or one whose total is no whole number. By induction on what is
left of the tape. -/
theorem exists_of_tape
    (htakes : ∀ o tape page events rest, fetch (.int o) tape = ⟨.ok page, events, rest⟩ →
      rest.length < tape.length) (start : ℤ) (tape : Tape) :
    ∃ (c : Course) (k : ℕ), c.tape 0 = tape ∧ c.LeadsTo start fetch k ∧
      ((c.Gets start fetch k ∧ c.IsLast start k) ∨
        (∃ f events rest,
          fetch (.int (c.offset start k)) (c.tape k) = ⟨.error f, events, rest⟩) ∨
        ∃ page events rest, fetch (.int (c.offset start k)) (c.tape k) =
          ⟨.ok page, events, rest⟩ ∧ ∀ t, page.total ≠ .int t) := by
  induction hlength : tape.length using Nat.strong_induction_on generalizing start tape with
  | _ n ih =>
  -- a course that asks for the first page and no further
  let still : Course := ⟨fun _ => 0, fun _ => [], fun _ => [], fun _ => tape⟩
  rcases hpage : fetch (.int start) tape with ⟨f | ⟨total, items⟩, events, rest⟩
  · refine ⟨still, 0, rfl, leadsTo_zero _ _ _, .inr (.inl ⟨f, events, rest, ?_⟩)⟩
    rw [offset_zero, hpage]
  by_cases htotal : ∃ t, total = .int t
  · obtain ⟨t, rfl⟩ := htotal
    have hshorter := htakes start tape _ events rest hpage
    obtain ⟨c, k, hrest, hleads, hend⟩ :=
      ih rest.length (hlength ▸ hshorter) (start + items.length) rest rfl
    have hgets : (cons t items events tape c).Gets start fetch 0 := by
      rw [Gets, offset_zero]
      exact hpage.trans (by rw [← hrest]; rfl)
    by_cases hlast : (cons t items events tape c).IsLast start 0
    · exact ⟨cons t items events tape c, 0, rfl, leadsTo_zero _ _ _, .inl ⟨hgets, hlast⟩⟩
    · refine ⟨cons t items events tape c, k + 1, rfl, hleads.cons hgets hlast, ?_⟩
      rw [gets_cons_succ, isLast_cons_succ, offset_cons_succ]
      exact hend
  · refine ⟨still, 0, rfl, leadsTo_zero _ _ _, .inr (.inr ⟨⟨total, items⟩, events, rest, ?_, ?_⟩)⟩
    · rw [offset_zero, hpage]
    · exact fun t ht => htotal ⟨t, ht⟩

end Course

end Walk

/-! ## Walks of a client -/

namespace Client

def pageAt (client : Client) (schema : String) (parameters : Fields) (size : ℤ) (offset : Value) :
    Job Page :=
  client.listPage (.text schema) (Walk.pageParameters parameters (.int size) offset)

variable {client : Client} {schema : String} {parameters : Fields} {size : ℤ}

/-- The page at an offset is what the call for it gives. -/
theorem pageAt_eq (o : ℤ) (tape : Tape) :
    let run := client.perform (Walk.callAt (Path.ofSchema schema) parameters (.int size) o) tape
    client.pageAt schema parameters size (.int o) tape =
      ⟨run.result.bind Page.ofReply, run.events, run.rest⟩ :=
  listPage_eq (Path.collection_text schema) _ tape

/-- A reply of success that is read as a page is got by a single request. -/
theorem pageAt_holds {o : ℤ} {h : Heading} {request : Request}
    (hprepare : client.prepare (Walk.callAt (Path.ofSchema schema) parameters (.int size) o) =
      .ok (h, request))
    {answer : Outcome} {v : Value} (hanswer : answer.Holds v) {page : Page}
    (hpage : Page.ofReply v = .ok page) (rest : Tape) :
    client.pageAt schema parameters size (.int o) (answer :: rest) =
      ⟨.ok page, [h.attempt, .sent request], rest⟩ := by
  rw [pageAt_eq, perform_holds hprepare hanswer rest, ← hpage]
  rfl

/-- A page that is got was asked for by copies of the request of its call, and took an outcome. -/
theorem pageAt_ok {o : ℤ} {tape rest : Tape} {page : Page} {events : List Event}
    (hpage : client.pageAt schema parameters size (.int o) tape = ⟨.ok page, events, rest⟩) :
    (∃ h request m, client.prepare (Walk.callAt (Path.ofSchema schema) parameters (.int size) o) =
        .ok (h, request) ∧ events.filterMap Event.request? = List.replicate (m + 1) request) ∧
      rest.length < tape.length := by
  rw [pageAt_eq, Run.mk.injEq] at hpage
  obtain ⟨hresult, rfl, rfl⟩ := hpage
  obtain ⟨v, hv, -⟩ := bind_eq_ok.mp hresult
  obtain ⟨⟨h, request, hprepare⟩, hlength⟩ := client.perform_ok_length hv
  obtain ⟨m, hcopies⟩ := client.perform_copies h request hprepare tape
  exact ⟨⟨h, request, m, hprepare, hcopies⟩, hlength⟩

/-- A page that is not got was asked for by no request but that of its call. -/
theorem pageAt_error {o : ℤ} {tape rest : Tape} {f : Fault} {events : List Event}
    (hpage : client.pageAt schema parameters size (.int o) tape = ⟨.error f, events, rest⟩) :
    ∀ request ∈ events.filterMap Event.request?, ∃ h,
      client.prepare (Walk.callAt (Path.ofSchema schema) parameters (.int size) o) =
        .ok (h, request) := by
  rw [pageAt_eq, Run.mk.injEq] at hpage
  obtain ⟨-, rfl, -⟩ := hpage
  exact fun request hsent => prepare_of_sent hsent

/-- A walk that wants anything begins at the offset of its selection, at the front without one. -/
theorem walk_eq {selection : Selection} (hcompile : selection.compile = .ok parameters) {start : ℤ}
    (hskip : Fields.get parameters "$skip" = .int start ∨
      (Fields.get parameters "$skip" = .null ∧ start = 0))
    {limit : Option ℕ} (hlimit : limit ≠ some 0) (tape : Tape) :
    client.walk (.text schema) selection (.int size) limit tape =
      Walk.pagesFrom (client.pageAt schema parameters size) (tape.length + 1) limit (.int start)
        tape := by
  have hstart : (Fields.get parameters "$skip").orElse (.int 0) = .int start := by
    rcases hskip with hget | ⟨hnull, rfl⟩
    · rw [hget, Value.orElse, Value.truthy]
      by_cases hzero : start = 0
      · rw [hzero]
        rfl
      · rw [if_pos (by simpa using hzero)]
    · rw [hnull]
      rfl
  rw [walk, if_neg hlimit, hcompile]
  dsimp only
  rw [hstart]
  rfl

end Client

/-! ## The course of a walk -/

section Course

variable {client : Client} {schema : String} {selection : Selection} {parameters : Fields}
  {start size : ℤ} {course : Walk.Course} {k : ℕ} {limit : Option ℕ}
  (hcompile : selection.compile = .ok parameters)
  (hskip : Fields.get parameters "$skip" = .int start ∨
    (Fields.get parameters "$skip" = .null ∧ start = 0))
  (hleads : course.LeadsTo start (client.pageAt schema parameters size) k)

include hcompile hskip hleads

/-- A walk that wants more than the pages that lead on hold comes behind them. -/
theorem walk_behind (hlimit : Walk.WantsMore limit (course.contents k).length) :
    ∃ steps, client.walk (.text schema) selection (.int size) limit (course.tape 0) =
      Walk.ahead (course.contents k) (course.seen k)
        (Walk.pagesFrom (client.pageAt schema parameters size) (steps + 1)
          (limit.map (· - (course.contents k).length)) (.int (course.offset start k))
          (course.tape k)) := by
  -- there is a step for each of the pages and one more, as each took an outcome
  have hlength := hleads.length_le fun i hi => (Client.pageAt_ok hi).2
  obtain ⟨steps, hsteps⟩ : ∃ steps, (course.tape 0).length + 1 = k + (steps + 1) :=
    ⟨(course.tape 0).length - k, by omega⟩
  have hsome : limit ≠ some 0 := fun h => absurd (hlimit 0 h) (Nat.not_lt_zero _)
  refine ⟨steps, ?_⟩
  rw [Client.walk_eq hcompile hskip hsome, hsteps, Walk.Course.pagesFrom_leads hleads hlimit]

/-- A walk that wants no more than the next page holds ends within it. -/
theorem walk_within (hgets : course.Gets start (client.pageAt schema parameters size) k) {n : ℕ}
    (hbehind : (course.contents k).length < n) (hwithin : n ≤ (course.contents (k + 1)).length) :
    client.walk (.text schema) selection (.int size) (some n) (course.tape 0) =
      ⟨.ok ⟨(course.contents (k + 1)).take n, none⟩, course.seen (k + 1), course.tape (k + 1)⟩ := by
  rw [Walk.Course.contents_succ, List.length_append] at hwithin
  have hn : n - (course.contents k).length ≤ (course.items k).length := by omega
  have hlimit : Walk.WantsMore (some n) (course.contents k).length := fun m hm =>
    Option.some.inj hm ▸ hbehind
  obtain ⟨steps, hwalk⟩ := walk_behind hcompile hskip hleads hlimit
  rw [hwalk, Option.map_some, Walk.pagesFrom_enough hgets hn, Walk.Course.contents_succ,
    Walk.Course.seen_succ, List.take_append, List.take_of_length_le hbehind.le]
  rfl

/-- A walk that wants more than the next page holds ends with that if it is the last. -/
theorem walk_last (hgets : course.Gets start (client.pageAt schema parameters size) k)
    (hlast : course.IsLast start k)
    (hlimit : Walk.WantsMore limit (course.contents (k + 1)).length) :
    client.walk (.text schema) selection (.int size) limit (course.tape 0) =
      ⟨.ok ⟨course.contents (k + 1), none⟩, course.seen (k + 1), course.tape (k + 1)⟩ := by
  rw [Walk.Course.contents_succ, List.length_append] at hlimit
  have hbefore : Walk.WantsMore limit (course.contents k).length := fun n hn =>
    (Nat.le_add_right _ _).trans_lt (hlimit n hn)
  obtain ⟨steps, hwalk⟩ := walk_behind hcompile hskip hleads hbefore
  rw [hwalk, Walk.pagesFrom_end hgets (Walk.leftOf_of_wantsMore hlimit)
    (Walk.Course.nextOffset_last hlast), Walk.Course.contents_succ, Walk.Course.seen_succ]
  rfl

/-- A walk that wants more is stopped behind the contents of the pages where the next is not got. -/
theorem walk_stopped {f : Fault} {events : List Event} {rest : Tape}
    (hpage : client.pageAt schema parameters size (.int (course.offset start k)) (course.tape k) =
      ⟨.error f, events, rest⟩)
    (hlimit : Walk.WantsMore limit (course.contents k).length) :
    client.walk (.text schema) selection (.int size) limit (course.tape 0) =
      ⟨.ok ⟨course.contents k, some f⟩, course.seen k ++ events, rest⟩ := by
  obtain ⟨steps, hwalk⟩ := walk_behind hcompile hskip hleads hlimit
  rw [hwalk, Walk.pagesFrom_stopped hpage, Walk.ahead]
  dsimp only [Except.map]
  rw [List.append_nil]

/-- A walk that wants everything begins with the pages, whatever comes behind them. -/
theorem walk_begins : ∃ delivery events rest,
    client.walk (.text schema) selection (.int size) none (course.tape 0) =
      ⟨.ok delivery, events, rest⟩ ∧
    course.contents k <+: delivery.items ∧ course.seen k <+: events := by
  obtain ⟨steps, hwalk⟩ := walk_behind hcompile hskip hleads (Walk.wantsMore_none _)
  obtain ⟨later, more, rest, hlater⟩ := Walk.pagesFrom_delivers
    (client.pageAt schema parameters size) (steps + 1) none (.int (course.offset start k))
    (course.tape k)
  rw [Option.map_none, hlater] at hwalk
  exact ⟨⟨course.contents k ++ later.items, later.stoppedBy⟩, course.seen k ++ more, rest, hwalk,
    List.prefix_append _ _, List.prefix_append _ _⟩

/-- A walk follows the course of its pages. It asks for each by the parameters of the selection, the
page size and the offset that the pages before lead to. Behind pages that lead on, whoever wants
nothing makes it ask for nothing; whoever wants no more than the next page holds makes it ask for
that page at most; and whoever wants more gets all of it before the walk ends, with that page if it
is the last, or is stopped where that page is not got. Whatever comes next, the walk begins with the
pages. -/
theorem walk_follows_course :
    let call (i : ℕ) : Call :=
      Walk.callAt (Path.ofSchema schema) parameters (.int size) (course.offset start i)
    let walk (limit : Option ℕ) : Run Delivery :=
      client.walk (.text schema) selection (.int size) limit (course.tape 0)
    (∀ i, Fields.get (call i).parameters "$top" = .int size ∧
      Fields.get (call i).parameters "$skip" = .int (course.offset start i) ∧
      ∀ name, name ≠ "$top" → name ≠ "$skip" →
        Fields.find? name (call i).parameters = Fields.find? name parameters) ∧
    (∀ i, course.Gets start (client.pageAt schema parameters size) i → ∃ h request m,
      client.prepare (call i) = .ok (h, request) ∧
      (course.events i).filterMap Event.request? = List.replicate (m + 1) request) ∧
    walk (some 0) = ⟨.ok ⟨[], none⟩, [], course.tape 0⟩ ∧
    (course.Gets start (client.pageAt schema parameters size) k →
      (∀ n, (course.contents k).length < n → n ≤ (course.contents (k + 1)).length →
        walk (some n) = ⟨.ok ⟨(course.contents (k + 1)).take n, none⟩, course.seen (k + 1),
          course.tape (k + 1)⟩) ∧
      (course.IsLast start k → ∀ limit, Walk.WantsMore limit (course.contents (k + 1)).length →
        walk limit = ⟨.ok ⟨course.contents (k + 1), none⟩, course.seen (k + 1),
          course.tape (k + 1)⟩)) ∧
    (∀ f events rest,
      client.pageAt schema parameters size (.int (course.offset start k)) (course.tape k) =
        ⟨.error f, events, rest⟩ →
      (∀ limit, Walk.WantsMore limit (course.contents k).length →
        walk limit = ⟨.ok ⟨course.contents k, some f⟩, course.seen k ++ events, rest⟩) ∧
      ∀ request ∈ events.filterMap Event.request?, ∃ h,
        client.prepare (call k) = .ok (h, request)) ∧
    ∃ delivery events rest, walk none = ⟨.ok delivery, events, rest⟩ ∧
      course.contents k <+: delivery.items ∧ course.seen k <+: events := by
  intro call walk
  refine ⟨fun i => ?_, fun i hi => (Client.pageAt_ok hi).1, if_pos rfl, fun hgets => ⟨?_, ?_⟩, ?_,
    walk_begins hcompile hskip hleads⟩
  · obtain ⟨htop, hskip⟩ := pageParameters_get parameters (.int size) (.int (course.offset start i))
    exact ⟨htop, hskip, fun name => pageParameters_find? parameters _ _⟩
  · exact fun n => walk_within hcompile hskip hleads hgets
  · exact fun hlast limit => walk_last hcompile hskip hleads hgets hlast
  · exact fun f events rest hpage =>
      ⟨fun limit => walk_stopped hcompile hskip hleads hpage, Client.pageAt_error hpage⟩

end Course

/-- Every network takes a walk through a course, up to its last page, to one that is not got, or to
one whose total is no whole number. -/
theorem walk_has_course {client : Client} {schema : String} {selection : Selection}
    {parameters : Fields} {start size : ℤ} (hcompile : selection.compile = .ok parameters)
    (hskip : Fields.get parameters "$skip" = .int start ∨
      (Fields.get parameters "$skip" = .null ∧ start = 0)) (tape : Tape) :
    ∃ (course : Walk.Course) (k : ℕ), course.tape 0 = tape ∧
      course.LeadsTo start (client.pageAt schema parameters size) k ∧
      (client.walk (.text schema) selection (.int size) none tape =
          ⟨.ok ⟨course.contents (k + 1), none⟩, course.seen (k + 1), course.tape (k + 1)⟩ ∨
        (∃ f events rest, client.walk (.text schema) selection (.int size) none tape =
          ⟨.ok ⟨course.contents k, some f⟩, course.seen k ++ events, rest⟩) ∨
        ∃ page events rest, client.pageAt schema parameters size
          (.int (course.offset start k)) (course.tape k) = ⟨.ok page, events, rest⟩ ∧
            ∀ t, page.total ≠ .int t) := by
  obtain ⟨course, k, rfl, hleads, hend⟩ := Walk.Course.exists_of_tape
    (fun o tape page events rest hpage => (Client.pageAt_ok hpage).2) start tape
  refine ⟨course, k, rfl, hleads, ?_⟩
  rcases hend with ⟨hgets, hlast⟩ | ⟨f, events, rest, hpage⟩ | hother
  · exact .inl (walk_last hcompile hskip hleads hgets hlast (Walk.wantsMore_none _))
  · exact .inr (.inl ⟨f, events, rest,
      walk_stopped hcompile hskip hleads hpage (Walk.wantsMore_none _)⟩)
  · exact .inr (.inr hother)

/-- The reply holds one item of two. -/
theorem twoItemsReply_holds : twoItemsReply.Holds
    (.dict [("total", .int 2), ("items", .list [.dict [("id", .int 1)]])]) :=
  ⟨_, rfl, interpret_twoItemsReply⟩

/-- A walk over the local gateway by two replies that each say there are two items and hold one. -/
def Walk.Course.twoPages : Walk.Course where
  total _ := 2
  items _ := [Content.ofFields (.int 1) [("id", .int 1)]]
  events i := [Client.Heading.attempt ⟨"GET", (Request.ofLocalPage i).address⟩,
    .sent (Request.ofLocalPage i)]
  tape i := List.replicate (2 - i) twoItemsReply

/-- The local gateway gives both pages. -/
theorem Walk.Course.gets_twoPages {i : ℕ} (hi : i < 2) :
    twoPages.Gets 0 ((Client.ofLocal 1 (.int 1)).pageAt "s" [] 1) i := by
  have hprepare : (Client.ofLocal 1 (.int 1)).prepare (Walk.callAt (Path.ofSchema "s") [] (.int 1)
      (twoPages.offset 0 i)) =
        .ok (⟨"GET", (Request.ofLocalPage i).address⟩, Request.ofLocalPage i) := by
    have hcall := prepare_ofLocalPage i hi
    interval_cases i <;> exact hcall
  have htape : twoPages.tape i = twoItemsReply :: twoPages.tape (i + 1) := by
    interval_cases i <;> rfl
  rw [Gets, Client.pageAt_eq, htape, perform_holds hprepare twoItemsReply_holds]
  rfl

/-- Who wants one item of the two has asked for one page, who wants all for both. -/
theorem walk_follows_course_two_pages :
    let walk (limit : Option ℕ) : Run Delivery := (Client.ofLocal 1 (.int 1)).walk (.text "s")
      .everything (.int 1) limit [twoItemsReply, twoItemsReply]
    (walk (some 1)).requests = [Request.ofLocalPage 0] ∧ (walk (some 1)).rest = [twoItemsReply] ∧
      (walk none).requests = [Request.ofLocalPage 0, Request.ofLocalPage 1] ∧
      ∃ c, (walk none).result = .ok ⟨[c, c], none⟩ := by
  have hgets := fun i hi => Walk.Course.gets_twoPages (i := i) hi
  have hfirst : Walk.Course.twoPages.LeadsTo 0
      ((Client.ofLocal 1 (.int 1)).pageAt "s" [] 1) 0 := Walk.Course.leadsTo_zero _ _ _
  have hboth : Walk.Course.twoPages.LeadsTo 0
      ((Client.ofLocal 1 (.int 1)).pageAt "s" [] 1) 1 := by
    refine ⟨fun i hi => hgets i (by omega), fun i hi => ?_⟩
    obtain rfl : i = 0 := by omega
    rintro (hnone | htotal)
    · cases hnone
    · exact absurd htotal (by decide)
  have hcompile : Selection.everything.compile = .ok [] := rfl
  obtain ⟨-, -, -, hnext, -⟩ := walk_follows_course hcompile (.inr ⟨rfl, rfl⟩) hfirst
  obtain ⟨-, -, -, hlast, -⟩ := walk_follows_course hcompile (.inr ⟨rfl, rfl⟩) hboth
  have hone := (hnext (hgets 0 (by omega))).1 1 (by decide) (by decide)
  have hall := (hlast (hgets 1 (by omega))).2 (.inr (by decide)) none (Walk.wantsMore_none _)
  refine ⟨congrArg Run.requests hone, congrArg Run.rest hone, congrArg Run.requests hall, ?_⟩
  exact ⟨_, congrArg Run.result hall⟩

end ContentGateway
