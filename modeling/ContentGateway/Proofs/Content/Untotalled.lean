import Mathlib
import ContentGateway.Proofs.Content.Lazy

/-!
# Listings without a total

A reply that gives no total is read as a page whose total is the count of its own contents. A walk
that counts on from an offset has always reached that many, so it ends with the first such page,
without a fault and whatever the gateway still holds. It has delivered everything exactly if that
page holds all that is left behind the starting offset.
-/

namespace ContentGateway

/-- A reply with items and without a total is read as a page whose total is their count. -/
theorem Page.ofReply_untotalled {fields : Fields} {items : List Value} {contents : List Content}
    (htotal : Fields.get fields "total" = .null) (hitems : Fields.get fields "items" = .list items)
    (hcontents : items.mapM Content.ofValue = .ok contents) :
    Page.ofReply (.dict fields) = .ok ⟨.int contents.length, contents⟩ := by
  have hread : Page.contents (.list items) = .ok contents := by
    rw [Page.contents]
    cases items <;> exact hcontents
  rw [Page.ofReply_dict, Page.ofValue_dict, hitems, hread, htotal]
  rfl

namespace Walk

/-- Nothing comes behind a page that gives its own count as total. -/
theorem nextOffset_untotalled (offset : ℕ) (items : List Content) :
    nextOffset (.int offset) ⟨.int items.length, items⟩ = .ok none := by
  rw [nextOffset_int, if_pos (.inl (by omega))]

/-- A page that gives its own count as total ends a walk. -/
theorem pagesFrom_untotalled {fetch : Value → Job Page} {offset : ℕ} {tape rest : Tape}
    {items : List Content} {events : List Event}
    (hfetch : fetch (.int offset) tape = ⟨.ok ⟨.int items.length, items⟩, events, rest⟩)
    (steps : ℕ) :
    pagesFrom fetch (steps + 1) none (.int offset) tape = ⟨.ok ⟨items, none⟩, events, rest⟩ :=
  pagesFrom_last hfetch (nextOffset_untotalled offset items)

end Walk

/-- A walk over a gateway that answers its first page without a total delivers the contents of that
page and ends well after a single request; the outcomes behind the answer stay on the tape. The
contents are the beginning of what the gateway holds from the starting offset on, and they are all
of it exactly if the listing ends within the page. -/
theorem walk_untotalled {client : Client} {schema : String} {selection : Selection}
    {parameters : Fields} (hcompile : selection.compile = .ok parameters) {skip pageSize : ℕ}
    (hskip : Fields.get parameters "$skip" = .int skip ∨
      (Fields.get parameters "$skip" = .null ∧ skip = 0))
    {listing : List Value} (hlisting : ∀ v ∈ listing, v.IsItem) {h : Client.Heading}
    {request : Request}
    (hprepare : client.prepare (pageCall (Path.ofSchema schema) parameters pageSize skip) =
      .ok (h, request))
    {answer : Outcome} {fields : Fields} (hanswer : answer.Holds (.dict fields))
    (htotal : Fields.get fields "total" = .null)
    (hitems : Fields.get fields "items" = .list ((listing.drop skip).take pageSize)) (rest : Tape) :
    ∃ contents, (listing.drop skip).mapM Content.ofValue = .ok contents ∧
      client.walk (.text schema) selection (.int pageSize) none (answer :: rest) =
        ⟨.ok ⟨contents.take pageSize, none⟩, [h.attempt, .sent request], rest⟩ ∧
      (contents.take pageSize = contents ↔ listing.length ≤ skip + pageSize) := by
  obtain ⟨contents, hcontents⟩ := contents_of_isItem fun v hv =>
    hlisting v (List.mem_of_mem_drop hv)
  have hpage := Page.ofReply_untotalled htotal hitems (mapM_take hcontents pageSize)
  have hfetch := Client.pageAt_holds hprepare hanswer hpage rest
  refine ⟨contents, hcontents, ?_, ?_⟩
  · have hstart : Fields.get parameters "$skip" = .int skip ∨
        (Fields.get parameters "$skip" = .null ∧ (skip : ℤ) = 0) := by exact_mod_cast hskip
    rw [Client.walk_eq hcompile hstart (by simp)]
    exact Walk.pagesFrom_untotalled hfetch _
  · rw [List.take_eq_self_iff, mapM_length hcontents, List.length_drop]
    omega

def oneItemReply : Outcome :=
  .success (.bytes [0x7b, 0x22, 0x69, 0x74, 0x65, 0x6d, 0x73, 0x22, 0x3a, 0x5b, 0x7b, 0x22, 0x69,
    0x64, 0x22, 0x3a, 0x31, 0x7d, 0x5d, 0x7d])

theorem oneItemReply_holds :
    oneItemReply.Holds (.dict [("items", .list [.dict [("id", .int 1)]])]) := by
  refine ⟨_, rfl, ?_⟩
  have hdecode : Text.decode [0x7b, 0x22, 0x69, 0x74, 0x65, 0x6d, 0x73, 0x22, 0x3a, 0x5b, 0x7b,
      0x22, 0x69, 0x64, 0x22, 0x3a, 0x31, 0x7d, 0x5d, 0x7d] = .ok ['\x7b', '"', 'i', 't', 'e', 'm',
        's', '"', ':', '[', '\x7b', '"', 'i', 'd', '"', ':', '1', '\x7d', ']', '\x7d'] := rfl
  rw [Reply.bodyValue, if_neg (by decide), hdecode]
  dsimp only
  rw [Json.read, String.toList_ofList]
  rfl

/-- Of two items that a gateway holds and gives one at a time without a total, a walk delivers the
first, and does not ask for the second. -/
theorem walk_untotalled_two_items :
    let listing : List Value := [.dict [("id", .int 1)], .dict [("id", .int 1)]]
    ∃ contents, listing.mapM Content.ofValue = .ok contents ∧
      ((Client.ofLocal 1 (.int 1)).walk (.text "s") .everything (.int (1 : ℕ)) none
        [oneItemReply, oneItemReply]).result = .ok ⟨contents.take 1, none⟩ ∧
      contents.take 1 ≠ contents := by
  have hlisting : ∀ v ∈ [Value.dict [("id", .int 1)], .dict [("id", .int 1)]], v.IsItem := by
    intro v hv
    rw [List.eq_of_mem_replicate (show v ∈ List.replicate 2 _ from hv)]
    exact ⟨_, _, rfl, rfl⟩
  have hprepare : (Client.ofLocal 1 (.int 1)).prepare (pageCall (Path.ofSchema "s") [] 1 0) =
      .ok (⟨"GET", (Request.ofLocalPage 0).address⟩, Request.ofLocalPage 0) :=
    prepare_ofLocalPage 0 (by norm_num)
  obtain ⟨contents, hcontents, hrun, hall⟩ := walk_untotalled
    (rfl : Selection.everything.compile = .ok []) (.inr ⟨rfl, rfl⟩) hlisting hprepare
    oneItemReply_holds rfl rfl [oneItemReply]
  refine ⟨contents, hcontents, ?_, fun hsame => absurd (hall.mp hsame) (by decide)⟩
  rw [hrun]

end ContentGateway
