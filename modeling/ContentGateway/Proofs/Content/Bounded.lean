import Mathlib
import ContentGateway.Proofs.Content.Gateway

/-!
# How long a walk can be

Behind each page a walk moves on by at least one, since an empty page ends it, and it goes on only
while it stays below the total that the page says. So where no total is beyond a bound, what the
offset lacks to the bound is lowered by each page, and the walk ends within as many requests, one at
least. Pages of any length are allowed, and totals that change from page to page.

For that, each page has to be asked for. The offsets behind a page are not too long: they are below
a total that was read in a reply. So a walk whose first page can be asked for is not stopped later.
-/

namespace ContentGateway

/-! ## Pages whose totals are bounded -/

/-- Whether an outcome is a reply of success that holds a page and says a total within a bound. -/
def Outcome.IsPageWithin (o : Outcome) (bound : ℤ) : Prop :=
  ∃ fields page total, o.Holds (.dict fields) ∧ Page.ofReply (.dict fields) = .ok page ∧
    Fields.get fields "total" = .int total ∧ total ≤ bound

/-- A page has the total that its reply says. -/
theorem Page.total_of_ofReply {fields : Fields} {page : Page} {total : ℤ}
    (hpage : Page.ofReply (.dict fields) = .ok page)
    (htotal : Fields.get fields "total" = .int total) : page.total = .int total := by
  rw [Page.ofReply_dict, Page.ofValue_dict, htotal] at hpage
  obtain ⟨items, -, hpage⟩ := bind_eq_ok.mp hpage
  cases hpage
  rfl

/-- Such a page is read with its total, which can be shown as it was read in a reply. -/
theorem Outcome.IsPageWithin.exists_page {o : Outcome} {bound : ℤ} (h : o.IsPageWithin bound) :
    ∃ v items total, o.Holds v ∧ Page.ofReply v = .ok ⟨.int total, items⟩ ∧ total ≤ bound ∧
      total.natAbs < 10 ^ Decimal.digitLimit := by
  obtain ⟨fields, ⟨pageTotal, items⟩, total, hholds, hpage, htotal, hbound⟩ := h
  obtain rfl : pageTotal = .int total := Page.total_of_ofReply hpage htotal
  have hshort := hholds.isDocument.get "total"
  rw [htotal] at hshort
  cases hshort with
  | int hshort => exact ⟨_, items, total, hholds, hpage, hbound, hshort⟩

/-! ## The length of a walk -/

namespace Walk

/-- Nothing is left of a limit that is reached. -/
theorem leftOf_eq_none {limit : Option ℕ} {count : ℕ} (h : leftOf limit count = none) :
    ∃ n, limit = some n ∧ n ≤ count := by
  cases limit with
  | none => cases h
  | some n =>
    rw [leftOf] at h
    split at h
    · next hn => exact ⟨n, rfl, hn⟩
    · cases h

/-- Whether a run of a walk from an offset makes no more requests than the offset lacks to a bound,
one at least, and ends well if there are outcomes for as many. -/
def IsBounded (bound offset : ℤ) (tape : Tape) (run : Run Delivery) : Prop :=
  (run.requests.length : ℤ) ≤ max 1 (bound - offset) ∧
    (max 1 (bound - offset) ≤ tape.length → ∃ contents, run.result = .ok ⟨contents, none⟩)

variable {bound offset : ℤ} {tape : Tape} {h : Client.Heading} {request : Request}

/-- A walk that ends with its first page is within every bound. -/
theorem isBounded_single {delivery : Delivery}
    (hdelivery : tape ≠ [] → delivery.stoppedBy = none) (rest : Tape) :
    IsBounded bound offset tape ⟨.ok delivery, [h.attempt, .sent request], rest⟩ := by
  refine ⟨le_max_left _ _, fun htape => ?_⟩
  have hsome : tape ≠ [] := by
    rintro rfl
    rw [List.length_nil, Nat.cast_zero] at htape
    exact absurd ((le_max_left _ _).trans htape) (by norm_num)
  obtain ⟨items, stoppedBy⟩ := delivery
  obtain rfl : stoppedBy = none := hdelivery hsome
  exact ⟨items, rfl⟩

/-- A page ahead of the rest of a walk lowers what the offset lacks to the bound, if the rest starts
further on and still below the bound. -/
theorem IsBounded.ahead {later : Run Delivery} {next : ℤ} (hmoved : offset < next)
    (hbelow : next < bound) (hlater : IsBounded bound next tape later) (o : Outcome)
    (items : List Content) :
    IsBounded bound offset (o :: tape) (ahead items [h.attempt, .sent request] later) := by
  obtain ⟨hrequests, hresult⟩ := hlater
  rw [max_eq_right (by omega)] at hrequests hresult
  rw [IsBounded, max_eq_right (by omega)]
  constructor
  · have hcount : (Walk.ahead items [h.attempt, .sent request] later).requests =
        request :: later.requests := rfl
    rw [hcount, List.length_cons]
    push_cast
    omega
  · intro htape
    rw [List.length_cons] at htape
    push_cast at htape
    obtain ⟨contents, hcontents⟩ := hresult (by omega)
    exact ⟨items ++ contents, by rw [Walk.ahead, hcontents]; rfl⟩

end Walk

section Bounded

variable {client : Client} {schema : String} {parameters : Fields} {size bound : ℤ}

/-- A walk from an offset on, through pages whose totals are within a bound, is bounded by what the
offset lacks to it. The induction is on the replies; the offset behind a page is larger by at least
one, and below the total of the page. -/
theorem pagesFrom_bounded (hreach : client.Reaches schema)
    (hkept : ∀ field ∈ Walk.kept parameters, Parameter.CanStand field.2)
    (hsize : size.natAbs < 10 ^ Decimal.digitLimit) {tape : Tape}
    (htape : ∀ o ∈ tape, o.IsPageWithin bound) {steps : ℕ} (hsteps : tape.length < steps)
    {offset : ℤ} (hoffset : offset.natAbs < 10 ^ Decimal.digitLimit) (limit : Option ℕ) :
    Walk.IsBounded bound offset tape
      (Walk.pagesFrom (client.pageAt schema parameters size) steps limit (.int offset) tape) := by
  induction tape generalizing steps offset limit with
  | nil =>
    obtain ⟨steps, rfl⟩ : ∃ n, steps = n + 1 := ⟨steps - 1, by omega⟩
    obtain ⟨h, request, hprepare⟩ :=
      Client.prepare_callAt_isOk_iff.mpr ⟨hreach, hkept, hsize, hoffset⟩
    have hfetch : client.pageAt schema parameters size (.int offset) [] =
        ⟨.error .tapeExhausted, [h.attempt, .sent request], []⟩ := by
      rw [Client.pageAt_eq, Client.perform_of_prepare hprepare]
      rfl
    rw [Walk.pagesFrom_stopped hfetch]
    exact Walk.isBounded_single (fun h => absurd rfl h) _
  | cons o tape ih =>
    obtain ⟨steps, rfl⟩ : ∃ n, steps = n + 1 := ⟨steps - 1, by omega⟩
    obtain ⟨hpage, htape⟩ := List.forall_mem_cons.mp htape
    rw [List.length_cons] at hsteps
    obtain ⟨v, items, total, hholds, hread, hbound, htotal⟩ := hpage.exists_page
    obtain ⟨h, request, hprepare⟩ :=
      Client.prepare_callAt_isOk_iff.mpr ⟨hreach, hkept, hsize, hoffset⟩
    have hfetch := Client.pageAt_holds hprepare hholds hread tape
    cases hleft : Walk.leftOf limit items.length with
    | none =>
      obtain ⟨n, rfl, hn⟩ := Walk.leftOf_eq_none hleft
      rw [Walk.pagesFrom_enough hfetch hn]
      exact Walk.isBounded_single (fun _ => rfl) _
    | some left =>
      have hnext : Walk.nextOffset (.int offset) ⟨.int total, items⟩ = _ := Walk.nextOffset_int
      by_cases hlast : total ≤ offset + items.length ∨ items = []
      · rw [if_pos hlast] at hnext
        rw [Walk.pagesFrom_end hfetch hleft hnext]
        exact Walk.isBounded_single (fun _ => rfl) _
      · rw [if_neg hlast] at hnext
        obtain ⟨hbelow, hitems⟩ := not_or.mp hlast
        have hcount : 0 < items.length := List.length_pos_iff.mpr hitems
        rw [Walk.pagesFrom_ahead hfetch hleft hnext]
        exact (ih htape (by omega) (by omega) left).ahead (by omega) (by omega) o items

end Bounded

/-- A reply that says there are two items and holds one is a page within two. -/
theorem isPageWithin_twoItemsReply : twoItemsReply.IsPageWithin 2 :=
  ⟨_, _, 2, twoItemsReply_holds, rfl, rfl, le_rfl⟩

end ContentGateway
