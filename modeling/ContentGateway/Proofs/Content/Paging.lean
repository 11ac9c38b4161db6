import Mathlib
import ContentGateway.Proofs.Content.Asked
import ContentGateway.Proofs.Json.RoundTrip

/-!
# Walking a listing

A gateway holds a listing and answers a page request by the items from its offset on, as many as
were asked for but not more than its cap. A walk through such a gateway delivers every item from the
starting offset once and in order, in as many pages as the listing fills. Transient failures within
the budget make single requests be sent again and change nothing else.

Every page is asked for only if its numbers are exchanged with text. The first of them are given
with the walk; the places of the later ones stay below the total, and that was read in a reply.
-/

namespace ContentGateway

/-- Whether a value is an item of a listing: an object with an identifier. -/
def Value.IsItem (v : Value) : Prop :=
  ∃ fields id, v = .dict fields ∧ Fields.find? "id" fields = some id

/-- What becomes of one page request: some failed attempts, and the answer. -/
structure PageBlock where
  failures : List Outcome
  answer : Outcome

def PageBlock.outcomes (block : PageBlock) : Tape := block.failures ++ [block.answer]

/-- Whether a block answers by the items of a listing at an offset, behind transient failures that
the budget covers. -/
structure PageBlock.Serves (block : PageBlock) (timeout : Value) (budget : ℤ)
    (listing : List Value) (size offset : ℕ) : Prop where
  transient : ∀ o ∈ block.failures, o.isTransient timeout
  covered : (block.failures.length : ℤ) ≤ budget
  answered : ∃ fields, Reply.interpret timeout block.answer = .ok (.dict fields) ∧
    Fields.get fields "total" = .int listing.length ∧
    Fields.get fields "items" = .list ((listing.drop offset).take size)

def pageCall (path : String) (parameters : Fields) (size offset : ℕ) : Call :=
  { Call.plain "GET" path with
    parameters := Walk.pageParameters parameters (.int size) (.int offset) }

/-! ## One page -/

/-- An object in a reply is read as a page, an empty one as well. -/
theorem Page.ofReply_dict (fields : Fields) :
    Page.ofReply (.dict fields) = Page.ofValue (.dict fields) := by
  have hreply : (Value.dict fields).orElse (.dict []) = .dict fields := by
    cases fields <;> rfl
  rw [Page.ofReply, hreply]

section Page

variable {listing : List Value} {contents : List Content} {size : ℕ} (offset : ℕ)

/-- The reply to a page request is read as the contents at its offset. -/
theorem ofReply_eq (hcontents : listing.mapM Content.ofValue = .ok contents) {fields : Fields}
    (htotal : Fields.get fields "total" = .int listing.length)
    (hitems : Fields.get fields "items" = .list ((listing.drop offset).take size)) :
    Page.ofReply (.dict fields) =
      .ok ⟨.int listing.length, (contents.drop offset).take size⟩ := by
  have helements : ∀ vs : List Value, ((Value.list vs).orElse (.list [])).elements = .ok vs := by
    intro vs
    cases vs <;> rfl
  rw [Page.ofReply_dict, Page.ofValue, hitems, helements]
  simp only [bind, Except.bind, mapM_take (mapM_drop hcontents offset) size, htotal, pure,
    Except.pure]
  rfl

/-- Where the walk goes behind a page: on by its size while that is inside the listing. -/
theorem nextOffset_page (hlength : contents.length = listing.length) (hsize : 1 ≤ size) :
    Walk.nextOffset (.int offset) ⟨.int listing.length, (contents.drop offset).take size⟩ =
      .ok (if listing.length ≤ offset + size then none else some (.int (offset + size : ℕ))) := by
  rw [Walk.nextOffset_int]
  have hcount : ((contents.drop offset).take size).length = min size (listing.length - offset) := by
    rw [List.length_take, List.length_drop, hlength]
  simp only [← List.length_eq_zero_iff, hcount]
  by_cases hlast : listing.length ≤ offset + size
  · rw [if_pos hlast, if_pos (by omega)]
  · have hfull : min size (listing.length - offset) = size := by omega
    rw [if_neg hlast, if_neg (by omega), hfull, Nat.cast_add]

/-- The pages from an offset on: one if it holds all that is left, otherwise one more than behind
it. -/
theorem pageCount_step (hsize : 1 ≤ size) (length : ℕ) :
    max 1 ((length - offset) ⌈/⌉ size) =
      if length ≤ offset + size then 1 else max 1 ((length - (offset + size)) ⌈/⌉ size) + 1 := by
  rw [Nat.ceilDiv_eq_add_pred_div, Nat.ceilDiv_eq_add_pred_div]
  split
  · next hlast =>
    have hone : (length - offset + size - 1) / size < 2 := Nat.div_lt_of_lt_mul (by omega)
    omega
  · next hlast =>
    have hsplit : length - offset + size - 1 = length - (offset + size) + size - 1 + size := by
      omega
    have hpos : 0 < (length - (offset + size) + size - 1) / size :=
      Nat.div_pos (by omega) hsize
    rw [hsplit, Nat.add_div_right _ hsize]
    omega

end Page

/-! ## Many pages -/

section Pages

variable {client : Client} {budget : ℤ} {base : Number}

/-- A call is answered behind transient failures that the budget covers, by as many requests. -/
theorem perform_served (hclient : client.HasPolicy budget base) (hbudget : budget ≤ 1024)
    (hrange : base.InRange budget) {call : Call} {h : Client.Heading} {request : Request}
    (hprepare : client.prepare call = .ok (h, request)) {failures : List Outcome} {answer : Outcome}
    (htransient : ∀ o ∈ failures, o.isTransient client.settings.timeout)
    (hcovered : (failures.length : ℤ) ≤ budget) {v : Value}
    (hanswer : Reply.interpret client.settings.timeout answer = .ok v) (rest : Tape) :
    ∃ events, client.perform call (failures ++ answer :: rest) = ⟨.ok v, events, rest⟩ ∧
      events.filterMap Event.request? = List.replicate (failures.length + 1) request := by
  rw [← Client.timeout_of_prepare hprepare] at htransient hanswer
  refine ⟨retryRounds h request budget base 0 failures ++ [h.attempt, .sent request], ?_, ?_⟩
  · have hover : client.afterOutcome h failures.length request.timeout answer =
        .over [] (.ok v) := by
      rw [Client.afterOutcome, hanswer]
    rw [Client.perform_of_prepare hprepare, attempts_transient h request hclient htransient,
      Nat.zero_add, attempts_over h request hover]
    · rfl
    · intro i hi
      exact hrange.canRetry hbudget (by omega)
  · rw [List.filterMap_append, requests_retryRounds, List.replicate_succ']
    rfl

variable {listing : List Value} {contents : List Content} {path : String} {schema : Value}
  {parameters : Fields} {pageSize size skip : ℕ} {request : ℕ → Request}

/-- A page request is answered by the contents at its offset, behind the failures of its block. -/
theorem listPage_served (hclient : client.HasPolicy budget base) (hbudget : budget ≤ 1024)
    (hrange : base.InRange budget) (hpath : Path.collection schema = .ok path)
    (hcontents : listing.mapM Content.ofValue = .ok contents) {offset : ℕ} {h : Client.Heading}
    {sent : Request}
    (hprepare : client.prepare (pageCall path parameters pageSize offset) = .ok (h, sent))
    {block : PageBlock} (hblock : block.Serves client.settings.timeout budget listing size offset)
    (rest : Tape) :
    ∃ events, client.listPage schema (Walk.pageParameters parameters (.int pageSize) (.int offset))
        (block.outcomes ++ rest) =
          ⟨.ok ⟨.int listing.length, (contents.drop offset).take size⟩, events, rest⟩ ∧
      events.filterMap Event.request? = List.replicate (block.failures.length + 1) sent := by
  obtain ⟨fields, hanswer, htotal, hitems⟩ := hblock.answered
  obtain ⟨events, hcall, hrequests⟩ := perform_served hclient hbudget hrange hprepare
    hblock.transient hblock.covered hanswer rest
  refine ⟨events, ?_, hrequests⟩
  rw [PageBlock.outcomes, List.append_assoc, List.singleton_append, listPage_run hpath hcall,
    ofReply_eq offset hcontents htotal hitems]

/-- A walk on from page `k` delivers what is left of the listing there. The induction is on the
pages to come; page `k` starts `k` sizes behind the start of the walk. -/
theorem pagesFrom_served (hclient : client.HasPolicy budget base) (hbudget : budget ≤ 1024)
    (hrange : base.InRange budget) (hpath : Path.collection schema = .ok path)
    (hcontents : listing.mapM Content.ofValue = .ok contents) (hsize : 1 ≤ size)
    {blocks : List PageBlock} {k steps : ℕ}
    (hcount : blocks.length = max 1 ((listing.length - (skip + k * size)) ⌈/⌉ size))
    (hsteps : blocks.length ≤ steps)
    (hserves : ∀ page ∈ blocks.zipIdx k,
      page.1.Serves client.settings.timeout budget listing size (skip + page.2 * size))
    (hprepare : ∀ page ∈ blocks.zipIdx k, ∃ h, client.prepare
      (pageCall path parameters pageSize (skip + page.2 * size)) = .ok (h, request page.2))
    (rest : Tape) :
    ∃ events, Walk.pagesFrom
        (fun offset => client.listPage schema
          (Walk.pageParameters parameters (.int pageSize) offset))
        steps none (.int (skip + k * size : ℕ)) (blocks.flatMap PageBlock.outcomes ++ rest) =
          ⟨.ok ⟨contents.drop (skip + k * size), none⟩, events, rest⟩ ∧
      events.filterMap Event.request? = (blocks.zipIdx k).flatMap fun page =>
        List.replicate (page.1.failures.length + 1) (request page.2) := by
  induction blocks generalizing k steps with
  | nil =>
    rw [List.length_nil] at hcount
    omega
  | cons block blocks ih =>
    rw [List.length_cons] at hcount hsteps
    obtain ⟨steps, rfl⟩ : ∃ n, steps = n + 1 := ⟨steps - 1, by omega⟩
    have hleft : blocks.length ≤ steps := Nat.le_of_succ_le_succ hsteps
    rw [List.zipIdx_cons, List.forall_mem_cons] at hserves hprepare
    obtain ⟨hblock, hserves⟩ := hserves
    obtain ⟨⟨h, hrequest⟩, hprepare⟩ := hprepare
    obtain ⟨events, hfetch, hrequests⟩ := listPage_served hclient hbudget hrange hpath hcontents
      hrequest hblock (blocks.flatMap PageBlock.outcomes ++ rest)
    have hnext := nextOffset_page (skip + k * size) (mapM_length hcontents) hsize
    rw [pageCount_step _ hsize] at hcount
    rw [List.flatMap_cons, List.append_assoc, List.zipIdx_cons, List.flatMap_cons]
    -- the page is the last one exactly where the count says that no other block follows
    by_cases hlast : listing.length ≤ skip + k * size + size
    · rw [if_pos hlast] at hcount hnext
      obtain rfl : blocks = [] := List.eq_nil_of_length_eq_zero (by omega)
      refine ⟨events, ?_, ?_⟩
      · rw [Walk.pagesFrom_last hfetch hnext, List.take_of_length_le]
        · rfl
        · rw [List.length_drop, mapM_length hcontents]
          omega
      · rw [hrequests, List.zipIdx_nil, List.flatMap_nil, List.append_nil]
    · have hmoved : skip + k * size + size = skip + (k + 1) * size := by ring
      rw [if_neg hlast, hmoved] at hcount hnext
      obtain ⟨more, hlater, hmore⟩ := ih (k := k + 1) (by omega) hleft hserves hprepare
      have hparts := List.take_append_drop size (contents.drop (skip + k * size))
      rw [List.drop_drop, hmoved] at hparts
      refine ⟨events ++ more, ?_, ?_⟩
      · rw [Walk.pagesFrom_next hfetch hnext hlater, hparts]
      · rw [List.filterMap_append, hrequests, hmore]

/-- A tape of blocks is at least as long as there are blocks. -/
theorem length_le_flatMap_outcomes (blocks : List PageBlock) :
    blocks.length ≤ (blocks.flatMap PageBlock.outcomes).length := by
  induction blocks with
  | nil => exact le_rfl
  | cons block blocks ih =>
    rw [List.flatMap_cons, List.length_append, PageBlock.outcomes, List.length_append,
      List.length_cons, List.length_singleton]
    omega

/-- What a reply of success holds is a document. -/
theorem Reply.isDocument_of_bodyValue {data : List UInt8} {v : Value}
    (h : bodyValue data = .ok v) : v.IsDocument := by
  rw [bodyValue] at h
  split at h
  · cases h
    exact .null
  · split at h
    · cases h
    · dsimp only at h
      split at h
      · next hread =>
        cases h
        exact Json.read_isDocument hread
      · cases h
      · cases h

/-- Only a reply of success gives a value. -/
theorem Reply.exists_of_interpret {timeout : Value} {o : Outcome} {v : Value}
    (h : interpret timeout o = .ok v) : ∃ data, o = .success (.bytes data) ∧
      bodyValue data = .ok v := by
  have hfault : ∀ step : Except Fault Fault, failWith step ≠ .ok v := by
    intro step
    cases step <;> exact nofun
  rw [interpret.eq_def] at h
  split at h
  · next data => exact ⟨data, rfl, h⟩
  · exact absurd h (hfault _)
  · exact absurd h (hfault _)
  · exact absurd h (hfault _)

/-- The length of a listing that is served is read in a reply, so it is not too long. -/
theorem PageBlock.Serves.length_lt {block : PageBlock} {timeout : Value} {offset : ℕ}
    (h : block.Serves timeout budget listing size offset) :
    listing.length < 10 ^ Decimal.digitLimit := by
  obtain ⟨fields, hanswer, htotal, -⟩ := h.answered
  obtain ⟨data, -, hbody⟩ := Reply.exists_of_interpret hanswer
  have hdocument := (Reply.isDocument_of_bodyValue hbody).get "total"
  rw [htotal] at hdocument
  cases hdocument with
  | int hshort => exact hshort

/-- A page behind the first one of a listing begins inside it. -/
theorem offset_lt_length {length k : ℕ} (hsize : 1 ≤ size)
    (hk : k + 1 < max 1 ((length - skip) ⌈/⌉ size)) : skip + (k + 1) * size < length := by
  rw [Nat.ceilDiv_eq_add_pred_div] at hk
  have hpages : k + 2 ≤ (length - skip + size - 1) / size := by omega
  have hfilled := (Nat.le_div_iff_mul_le hsize).mp hpages
  have hsplit : (k + 2) * size = (k + 1) * size + size := by ring
  omega

end Pages

/-! ## A walk over two pages -/

/-- A reply that says that there are two items, and holds one of them. -/
def twoItemsReply : Outcome :=
  .success (.bytes [0x7b, 0x22, 0x74, 0x6f, 0x74, 0x61, 0x6c, 0x22, 0x3a, 0x32, 0x2c, 0x22, 0x69,
    0x74, 0x65, 0x6d, 0x73, 0x22, 0x3a, 0x5b, 0x7b, 0x22, 0x69, 0x64, 0x22, 0x3a, 0x31, 0x7d, 0x5d,
    0x7d])

/-- The reply is one of success, and holds one item of two. -/
theorem interpret_twoItemsReply : Reply.interpret (.int 30) twoItemsReply =
    .ok (.dict [("total", .int 2), ("items", .list [.dict [("id", .int 1)]])]) := by
  have hdecode : Text.decode [0x7b, 0x22, 0x74, 0x6f, 0x74, 0x61, 0x6c, 0x22, 0x3a, 0x32, 0x2c,
      0x22, 0x69, 0x74, 0x65, 0x6d, 0x73, 0x22, 0x3a, 0x5b, 0x7b, 0x22, 0x69, 0x64, 0x22, 0x3a,
      0x31, 0x7d, 0x5d, 0x7d] = .ok
        ['\x7b', '"', 't', 'o', 't', 'a', 'l', '"', ':', '2', ',', '"', 'i',
        't', 'e', 'm', 's', '"', ':', '[', '\x7b', '"', 'i', 'd', '"', ':', '1', '\x7d', ']',
        '\x7d'] := rfl
  rw [twoItemsReply, Reply.interpret, Reply.bodyValue, if_neg (by decide), hdecode]
  dsimp only
  rw [Json.read, String.toList_ofList]
  rfl

/-- The requests of a walk over the local gateway by pages of one item. -/
def Request.ofLocalPage (k : ℕ) : Request :=
  { Request.ofLocal with
    address := "http://local/squidex/content/s?$top=1&$skip=" ++ toString k }

/-- The call for each of the first two pages can be made. -/
theorem prepare_ofLocalPage (k : ℕ) (hk : k < 2) :
    (Client.ofLocal 1 (.int 1)).prepare (pageCall "/squidex/content/s" [] 1 (0 + k * 1)) =
      .ok (⟨"GET", (Request.ofLocalPage k).address⟩, Request.ofLocalPage k) := by
  have haddress : (Client.ofLocal 1 (.int 1)).base.build "/squidex/content/s"
      (Walk.pageParameters [] (.int (1 : ℕ)) (.int (0 + k * 1 : ℕ))) =
        .ok (Request.ofLocalPage k).address := by
    interval_cases k <;> rfl
  have hheaders : Request.mergedHeaders (Client.ofLocal 1 (.int 1)).settings [] =
      .ok Request.defaultHeaders := rfl
  have hbody : Request.bodyFor .null = .ok none := rfl
  have htarget : Request.target (Request.ofLocalPage k).address =
      .ok (Request.ofLocalPage k).address := by
    interval_cases k <;> rfl
  exact Client.prepare_eq_ok.mpr ⟨_, _, _, _, haddress, hheaders, hbody, htarget, rfl, rfl⟩

/-- The client can make requests for the schema. -/
theorem Client.ofLocal_reaches : (Client.ofLocal 1 (.int 1)).Reaches "s" where
  headers := ⟨[], rfl⟩
  scheme := rfl

def twoItems : List Value := [.dict [("id", .int 1)], .dict [("id", .int 1)]]

theorem isItem_twoItems : ∀ v ∈ twoItems, v.IsItem := by
  intro v hv
  rw [List.eq_of_mem_replicate (show v ∈ List.replicate 2 _ from hv)]
  exact ⟨_, _, rfl, rfl⟩

/-- The reply serves either page of one item, behind one failure at most. -/
theorem serves_twoItemsReply {failures : List Outcome}
    (htransient : ∀ o ∈ failures, o.isTransient (.int 30)) (hcovered : failures.length ≤ 1)
    {offset : ℕ} (hoffset : offset < 2) :
    (PageBlock.mk failures twoItemsReply).Serves (.int 30) 1 twoItems 1 offset where
  transient := htransient
  covered := by exact_mod_cast hcovered
  answered := ⟨_, interpret_twoItemsReply, rfl, by interval_cases offset <;> rfl⟩

end ContentGateway
