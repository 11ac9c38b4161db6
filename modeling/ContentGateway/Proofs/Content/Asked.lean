import Mathlib
import ContentGateway.Proofs.Content.Collection
import ContentGateway.Proofs.Content.Walk
import ContentGateway.Proofs.Decimal.Whole
import ContentGateway.Proofs.Transport.Prepare
import ContentGateway.Proofs.Transport.Reached

/-!
# Pages that can be asked for

The request for a page holds the size and the place of the page, and the parameters of the selection
that these do not replace. It can be made exactly if a client can make requests for the collection
at all, each of those parameters can stand in an address, and the size and the place are numbers
that are exchanged with text. So which pages of a selection can be asked for depends on their sizes
and places only by how long these are.
-/

namespace ContentGateway

/-! ## Parameters of a page -/

namespace Parameter

/-- Whether a parameter can stand in an address: it is left out there, or it can be shown and is no
broken text. -/
def CanStand (v : Value) : Prop :=
  v.isNull = false → v.unpaired? = none ∧ ∃ text, render v = .ok text

/-- A whole number can stand in an address exactly if it is short enough for text. -/
theorem canStand_int_iff {i : ℤ} : CanStand (.int i) ↔ i.natAbs < 10 ^ Decimal.digitLimit := by
  constructor
  · intro h
    obtain ⟨-, text, htext⟩ := h rfl
    exact Value.lt_of_wholeText htext
  · exact fun h _ => ⟨rfl, _, Value.wholeText_ok h⟩

/-- Parameters can be shown and encoded exactly if each of them can stand in an address. -/
theorem canStand_iff {parameters : Fields} :
    ((∃ pairs, present parameters = .ok pairs) ∧ unpaired? parameters = none) ↔
      ∀ field ∈ parameters, CanStand field.2 := by
  rw [present_isOk_iff, unpaired?, List.findSome?_eq_none_iff]
  constructor
  · rintro ⟨hshown, hencodes⟩ field hfield hnull
    exact ⟨hencodes field hfield, hshown field hfield hnull⟩
  · refine fun h => ⟨fun field hfield hnull => (h field hfield hnull).2, fun field hfield => ?_⟩
    obtain ⟨name, v⟩ := field
    cases v with
    | null => rfl
    | _ => exact (h _ hfield rfl).1

end Parameter

namespace Walk

/-- The call for the page of a walk at an offset. -/
def callAt (path : String) (parameters : Fields) (size : Value) (offset : ℤ) : Call :=
  { Call.plain "GET" path with parameters := pageParameters parameters size (.int offset) }

/-- The parameters of a selection that a page takes over: those but its size and its place. -/
def kept (parameters : Fields) : Fields :=
  (parameters.eraseP fun field => field.1 = "$skip").eraseP fun field => field.1 = "$top"

/-- The parameters of a page are its place, its size and what it takes over. -/
theorem mem_pageParameters {parameters : Fields} {size offset : Value} {field : String × Value} :
    field ∈ pageParameters parameters size offset ↔
      field = ("$skip", offset) ∨ field = ("$top", size) ∨ field ∈ kept parameters := by
  rw [pageParameters, Fields.mem_put_iff, Fields.eraseP_put (by decide), Fields.mem_put_iff, kept]

/-- The parameters of a page can stand in an address exactly if those that it takes over can and its
numbers are not too long. -/
theorem canStand_pageParameters_iff {parameters : Fields} {size offset : ℤ} :
    (∀ field ∈ pageParameters parameters (.int size) (.int offset),
        Parameter.CanStand field.2) ↔
      (∀ field ∈ kept parameters, Parameter.CanStand field.2) ∧
        size.natAbs < 10 ^ Decimal.digitLimit ∧ offset.natAbs < 10 ^ Decimal.digitLimit := by
  rw [← Parameter.canStand_int_iff (i := size), ← Parameter.canStand_int_iff (i := offset)]
  constructor
  · intro h
    exact ⟨fun field hfield => h field (mem_pageParameters.mpr (.inr (.inr hfield))),
      h _ (mem_pageParameters.mpr (.inr (.inl rfl))), h _ (mem_pageParameters.mpr (.inl rfl))⟩
  · rintro ⟨hkept, hsize, hoffset⟩ field hfield
    rcases mem_pageParameters.mp hfield with rfl | rfl | hfield
    · exact hoffset
    · exact hsize
    · exact hkept field hfield

end Walk

/-! ## Clients that can ask -/

namespace Client

variable {client : Client} {schema : String} {parameters : Fields}

/-- What stands in front of the parameters of a page. -/
def pageFront (client : Client) (schema : String) : String :=
  client.base.locate (Path.ofSchema schema) ++
    Base.separatorFor (client.base.locate (Path.ofSchema schema))

/-- Whether a client can make requests for the contents of a schema: it is configured with headers,
and what stands in front of the parameters begins with a scheme. -/
structure Reaches (client : Client) (schema : String) : Prop where
  headers : ∃ configured, client.settings.headers = .dict configured
  scheme : Request.hasScheme
    (Request.splitFragment (Request.opened (client.pageFront schema).toList)).1

/-- There is a slash in front of the parameters of a page, that of its path. -/
theorem slash_mem_pageFront (client : Client) (schema : String) :
    '/' ∈ (client.pageFront schema).toList := by
  have hpath : '/' ∈ (Path.ofSchema schema).toList := by
    rw [Path.toList_ofSchema]
    exact List.mem_append_left _ (by simp)
  rw [pageFront, Base.locate, Path.isWhole_ofSchema, if_neg Bool.false_ne_true,
    String.toList_append, String.toList_append]
  exact List.mem_append_left _ (List.mem_append_right _ hpath)

/-- A request can go to the address of a page whatever its parameters are, or it never can. -/
theorem target_pageFront_iff {pairs : List (String × String)} (hpairs : pairs ≠ []) :
    (∃ full, Request.target (client.pageFront schema ++ Parameter.join pairs) = .ok full) ↔
      Request.hasScheme
        (Request.splitFragment (Request.opened (client.pageFront schema).toList)).1 :=
  Request.target_append (client.slash_mem_pageFront schema)
    (fun _ => Parameter.isQueryChar_of_mem_join) (Parameter.join_ne_nil hpairs)
    String.toList_append

/-- The address of a page is what stands in front of its parameters, and these. -/
theorem build_page {size offset : Value} {pairs : List (String × String)}
    (hoffset : offset.isNull = false)
    (hpresent : Parameter.present (Walk.pageParameters parameters size offset) = .ok pairs)
    (hencodes : Parameter.unpaired? (Walk.pageParameters parameters size offset) = none) :
    pairs ≠ [] ∧ client.base.build (Path.ofSchema schema)
      (Walk.pageParameters parameters size offset) =
        .ok (client.pageFront schema ++ Parameter.join pairs) := by
  have hpairs := Parameter.present_ne_nil hpresent (Walk.mem_pageParameters.mpr (.inl rfl)) hoffset
  refine ⟨hpairs, ?_⟩
  rw [Base.build_eq _ _ hpresent hencodes, if_neg hpairs, pageFront]

/-- Headers can be merged exactly if those of the settings are an object. -/
theorem mergedHeaders_isOk_iff {settings : Settings} {headers : Fields} :
    (∃ merged, Request.mergedHeaders settings headers = .ok merged) ↔
      ∃ configured, settings.headers = .dict configured := by
  rw [Request.mergedHeaders.eq_def]
  constructor
  · rintro ⟨merged, h⟩
    split at h
    · next configured hconfigured => exact ⟨configured, hconfigured⟩
    · cases h
  · rintro ⟨configured, hconfigured⟩
    rw [hconfigured]
    exact ⟨_, rfl⟩

/-- The request for a page can be made exactly if requests for the collection can be made at all,
the parameters that the page takes over can stand in an address, and its numbers are not too long.
-/
theorem prepare_callAt_isOk_iff {size offset : ℤ} :
    (∃ h request, client.prepare
        (Walk.callAt (Path.ofSchema schema) parameters (.int size) offset) = .ok (h, request)) ↔
      client.Reaches schema ∧ (∀ field ∈ Walk.kept parameters, Parameter.CanStand field.2) ∧
        size.natAbs < 10 ^ Decimal.digitLimit ∧ offset.natAbs < 10 ^ Decimal.digitLimit := by
  rw [← Walk.canStand_pageParameters_iff, ← Parameter.canStand_iff]
  constructor
  · rintro ⟨h, request, hprepare⟩
    obtain ⟨address, headers, body, full, haddress, hheaders, -, htarget, -, -⟩ :=
      prepare_eq_ok.mp hprepare
    obtain ⟨⟨pairs, hpresent⟩, hencodes⟩ := Base.of_build_eq_ok haddress
    obtain ⟨hpairs, hbuild⟩ := build_page rfl hpresent hencodes
    obtain rfl := Except.ok.inj (hbuild.symm.trans haddress)
    exact ⟨⟨mergedHeaders_isOk_iff.mp ⟨headers, hheaders⟩,
      (target_pageFront_iff hpairs).mp ⟨full, htarget⟩⟩, ⟨pairs, hpresent⟩, hencodes⟩
  · rintro ⟨hreach, ⟨pairs, hpresent⟩, hencodes⟩
    obtain ⟨hpairs, hbuild⟩ := build_page rfl hpresent hencodes
    obtain ⟨headers, hheaders⟩ := mergedHeaders_isOk_iff.mpr hreach.headers
    obtain ⟨full, htarget⟩ := (target_pageFront_iff hpairs).mpr hreach.scheme
    exact ⟨_, _, prepare_eq_ok.mpr
      ⟨_, headers, none, full, hbuild, hheaders, rfl, htarget, rfl, rfl⟩⟩

/-- A walk whose first page fails is stopped there, behind what that page did. -/
theorem walk_of_listPage_error {selection : Selection}
    (hcompile : selection.compile = .ok parameters) {start size : Value}
    (hskip : (Fields.get parameters "$skip").orElse (.int 0) = start)
    {tape rest : Tape} {f : Fault} {events : List Event}
    (hfetch : client.listPage (.text schema) (Walk.pageParameters parameters size start) tape =
      ⟨.error f, events, rest⟩) :
    client.walk (.text schema) selection size none tape =
      ⟨.ok ⟨[], some f⟩, events, rest⟩ := by
  rw [walk, if_neg nofun, hcompile]
  dsimp only
  rw [hskip]
  exact Walk.pagesFrom_stopped hfetch

/-- Contents whose first page has no address are not asked for. -/
theorem listAll_of_build_error {selection : Selection}
    (hcompile : selection.compile = .ok parameters) {start : Value}
    (hskip : (Fields.get parameters "$skip").orElse (.int 0) = start) {f : Fault}
    (hbuild : client.base.build (Path.ofSchema schema)
      (Walk.pageParameters parameters Walk.standardPageSize start) = .error f) (tape : Tape) :
    client.listAll (.text schema) selection tape = ⟨.error f, [], tape⟩ := by
  have hfetch := listPage_error (Path.collection_text schema) (perform_of_build_error hbuild tape)
  rw [listAll, Job.bind_of_ok (walk_of_listPage_error hcompile hskip hfetch)]
  rfl

/-- A page with a number that is too long is not asked for: a walk that begins with it is stopped
there, and sends nothing. -/
theorem walk_unasked (client : Client) (schema : String) {selection : Selection}
    (hcompile : selection.compile = .ok parameters) {start size : ℤ}
    (hskip : (Fields.get parameters "$skip").orElse (.int 0) = .int start)
    (hlong : ¬ (size.natAbs < 10 ^ Decimal.digitLimit ∧ start.natAbs < 10 ^ Decimal.digitLimit))
    (tape : Tape) :
    let run := client.walk (.text schema) selection (.int size) none tape
    (∃ f, run.result = .ok ⟨[], some f⟩) ∧ run.requests = [] ∧ run.rest = tape := by
  cases hprepare : client.prepare
      (Walk.callAt (Path.ofSchema schema) parameters (.int size) start) with
  | ok prepared =>
    exact absurd (prepare_callAt_isOk_iff.mp ⟨prepared.1, prepared.2, hprepare⟩).2.2 hlong
  | error f =>
    obtain ⟨-, hresult, hrequests, hrest⟩ := perform_of_prepare_error hprepare tape
    rcases hrun : client.perform (Walk.callAt (Path.ofSchema schema) parameters (.int size) start)
      tape with ⟨result, events, rest⟩
    rw [hrun] at hresult hrequests hrest
    obtain rfl : result = .error f := hresult
    have hfetch := listPage_error (Path.collection_text schema) hrun
    dsimp only
    rw [walk_of_listPage_error hcompile hskip hfetch]
    exact ⟨⟨f, rfl⟩, hrequests, hrest⟩

end Client

end ContentGateway
