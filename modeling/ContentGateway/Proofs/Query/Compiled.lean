import Mathlib
import ContentGateway.Proofs.Query.Spelling
import ContentGateway.Proofs.Value.Fields

/-!
# What a query compiles to

The parameters of a query are five candidates in a fixed order, less those that are null. So no name
is there twice and no parameter is null, and what holds of texts and of the limit, the offset and
the search term holds of every parameter.
-/

namespace ContentGateway

/-- A text, null where there is none. -/
def Value.ofText? : Option String → Value
  | some s => .text s
  | none => .null

/-- The text of points, null where there are none. -/
def Value.ofPoints? : Option (List Text.Point) → Value
  | some ps => .ofPoints ps
  | none => .null

/-- The text of points is not null. -/
theorem Value.isNull_ofPoints (ps : List Text.Point) : (ofPoints ps).isNull = false := by
  rcases ofPoints_cases ps with ⟨t, -, h⟩ | h <;> rw [h] <;> rfl

/-- Points that are those of a text, if there are any, are that text. -/
theorem Value.ofPoints?_of_rel {ps? : Option (List Text.Point)} {text? : Option String}
    (h : Option.Rel (fun ps s => ps = Text.points s.toList) ps? text?) :
    ofPoints? ps? = ofText? text? := by
  cases h with
  | none => rfl
  | some h => rw [ofPoints?, ofText?, h, ofPoints_points, String.ofList_toList]

/-- Whether there is no broken text in a member, so that its points are those of its text. -/
def FilterPart.IsWhole (part : FilterPart) : Prop :=
  part.SpeltBy fun ps s => ps = Text.points s.toList

/-- Whether there is no broken text in a sort order. -/
def SortOrder.IsWhole (order : SortOrder) : Prop :=
  order.SpeltBy fun ps s => ps = Text.points s.toList

namespace Query

/-- The parameters that a query may have, null where they are not set. -/
def candidates (q : Query) (filter order : Value) : Fields :=
  [("$filter", filter), ("$orderby", order), ("$top", q.top), ("$skip", q.skip),
    ("$search", q.search)]

variable {q : Query} {fields : Fields}

/-- The filter text joins the texts of the members, and there is none without a member. -/
theorem filterText_of_written {texts : List String}
    (h : q.parts.mapM FilterPart.render = .ok texts) :
    q.filterText =
      .ok (if texts = [] then none else some (conjunction.intercalate texts)) := by
  rw [filterText]
  cases hparts : q.parts with
  | nil =>
    rw [hparts, mapM_nil_eq_ok] at h
    subst h
    rfl
  | cons part parts =>
    rw [hparts] at h
    obtain ⟨text, rest, -, -, rfl⟩ := mapM_cons_eq_ok.mp h
    rw [h]
    rfl

/-- The points of a filter join those of the members, and there are none without a member. -/
theorem filterPoints_eq_ok {ps? : Option (List Text.Point)} (h : q.filterPoints = .ok ps?) :
    ∃ pss, q.parts.mapM FilterPart.points = .ok pss ∧
      ps? = if q.parts = [] then none
        else some ((Text.points conjunction.toList).intercalate pss) := by
  rw [filterPoints] at h
  by_cases hempty : q.parts = []
  · rw [if_pos (List.isEmpty_iff.mpr hempty)] at h
    cases h
    exact ⟨[], by rw [hempty]; rfl, by rw [if_pos hempty]⟩
  · rw [if_neg (by rwa [List.isEmpty_iff])] at h
    obtain ⟨pss, hpss, h⟩ := bind_eq_ok.mp h
    cases h
    exact ⟨pss, hpss, by rw [if_neg hempty]⟩

/-- A query with a member that cannot be written does not compile. -/
theorem compile_of_mapM_error {f : Fault} (h : q.parts.mapM FilterPart.render = .error f) :
    q.compile = .error f := by
  have hfilter : q.filterText = .error f := by
    rw [filterText]
    cases hparts : q.parts with
    | nil =>
      rw [hparts] at h
      cases h
    | cons part parts =>
      rw [hparts] at h
      rw [h]
      rfl
  have hpoints := filterPoints_alike (q := q) isSpelling_mended fun part _ => part.speltBy_mended
  rw [compile, (hpoints.failAlike f).mpr hfilter]
  rfl

/-- A candidate stands among the parameters if it is not null. -/
theorem filter_optional (name : String) (v : Value) (rest : Fields) :
    ((name, v) :: rest).filter (fun field => !field.2.isNull) =
      optional name v ++ rest.filter fun field => !field.2.isNull := by
  rw [optional, List.filter_cons]
  cases v.isNull <;> rfl

/-- The candidates that are not null, one by one. -/
theorem filter_candidates (q : Query) (filter order : Value) :
    (q.candidates filter order).filter (fun field => !field.2.isNull) =
      optional "$filter" filter ++ optional "$orderby" order ++ optional "$top" q.top ++
        optional "$skip" q.skip ++ optional "$search" q.search := by
  rw [candidates, filter_optional, filter_optional, filter_optional, filter_optional,
    filter_optional, List.filter_nil, List.append_nil, List.append_assoc, List.append_assoc,
    List.append_assoc]

/-- A filter or an order stands among the parameters if there is one. -/
theorem optional_ofPoints? (name : String) (ps? : Option (List Text.Point)) :
    optional name (.ofPoints? ps?) = match ps? with
      | some ps => [(name, .ofPoints ps)]
      | none => [] := by
  cases ps? with
  | none => rfl
  | some ps => rw [optional, Value.ofPoints?, Value.isNull_ofPoints, if_neg Bool.false_ne_true]

/-- A query whose filter and order are written compiles to these and what else is set. -/
theorem compile_of_points {filter? order? : Option (List Text.Point)}
    (hfilter : q.filterPoints = .ok filter?)
    (horder : q.sortOrder.mapM SortOrder.points = .ok order?) :
    q.compile = .ok ((q.candidates (.ofPoints? filter?) (.ofPoints? order?)).filter
      fun field => !field.2.isNull) := by
  rw [filter_candidates, optional_ofPoints?, optional_ofPoints?, compile, hfilter]
  cases hq : q.sortOrder with
  | none =>
    rw [hq] at horder
    cases horder
    cases filter? <;> rfl
  | some order =>
    rw [hq] at horder
    obtain ⟨ps, hps, horder⟩ := bind_eq_ok.mp horder
    cases horder
    simp only [bind, Except.bind, hps]
    cases filter? <;> rfl

/-- The parameters of a query are the candidates that are not null. -/
theorem compile_eq_ok (h : q.compile = .ok fields) :
    ∃ filter? order?, q.filterPoints = .ok filter? ∧
      q.sortOrder.mapM SortOrder.points = .ok order? ∧
      fields = (q.candidates (.ofPoints? filter?) (.ofPoints? order?)).filter
        fun field => !field.2.isNull := by
  obtain ⟨filter?, hfilter, hrest⟩ := bind_eq_ok.mp h
  obtain ⟨order?, horder⟩ : ∃ order?, q.sortOrder.mapM SortOrder.points = .ok order? := by
    cases hq : q.sortOrder with
    | none => exact ⟨none, rfl⟩
    | some order =>
      rw [hq] at hrest
      obtain ⟨ps, hps, -⟩ := bind_eq_ok.mp hrest
      exact ⟨some ps, by rw [Option.mapM_some, hps]; rfl⟩
  rw [compile_of_points hfilter horder] at h
  exact ⟨filter?, order?, hfilter, horder, (Except.ok.inj h).symm⟩

/-- A query without broken texts compiles to its filter text, its order and what else is set. -/
theorem compile_of_written {filter? order? : Option String} (hfilter : q.filterText = .ok filter?)
    (horder : q.sortOrder.mapM SortOrder.render = .ok order?)
    (hparts : ∀ part ∈ q.parts, part.IsWhole)
    (hsorted : ∀ order, q.sortOrder = some order → order.IsWhole) :
    q.compile = .ok ((q.candidates (.ofText? filter?) (.ofText? order?)).filter
      fun field => !field.2.isNull) := by
  have hfilters := filterPoints_alike isSpelling_points hparts
  have horders := SortOrder.mapM_points_alike isSpelling_points hsorted
  rw [hfilter] at hfilters
  rw [horder] at horders
  obtain ⟨filterPoints?, hfilterPoints, hfilterRel⟩ := hfilters.ok_right
  obtain ⟨orderPoints?, horderPoints, horderRel⟩ := horders.ok_right
  rw [compile_of_points hfilterPoints horderPoints, Value.ofPoints?_of_rel hfilterRel,
    Value.ofPoints?_of_rel horderRel]

/-- A query's parameters have the text of the filter's points under its name, and nothing there
without a filter. -/
theorem compile_filter (h : q.compile = .ok fields) :
    ∃ ps?, q.filterPoints = .ok ps? ∧ fields.find? "$filter" = ps?.map Value.ofPoints := by
  obtain ⟨ps?, order?, hps, -, rfl⟩ := compile_eq_ok h
  refine ⟨ps?, hps, ?_⟩
  cases ps? with
  | some ps =>
    rw [filter_candidates, optional_ofPoints?]
    rfl
  | none =>
    -- the candidate for the filter is null, and whatever stands behind it has another name
    refine Fields.find?_eq_none fun field hfield hname => ?_
    obtain ⟨hmem, hset⟩ := List.mem_filter.mp hfield
    rcases List.mem_cons.mp hmem with rfl | hmem
    · cases hset
    · have hnames : "$filter" ∈ ["$orderby", "$top", "$skip", "$search"] :=
        hname ▸ List.mem_map_of_mem (f := Prod.fst) hmem
      exact absurd hnames (by decide)

/-- Without broken texts it is the filter text that stands under the name. -/
theorem compile_filterText (h : q.compile = .ok fields) (hparts : ∀ part ∈ q.parts, part.IsWhole) :
    ∃ text?, q.filterText = .ok text? ∧ fields.find? "$filter" = text?.map Value.text := by
  obtain ⟨ps?, hps, hfind⟩ := compile_filter h
  have hfilters := filterPoints_alike isSpelling_points hparts
  rw [hps] at hfilters
  obtain ⟨text?, htext, hrel⟩ := hfilters.ok_left
  refine ⟨text?, htext, ?_⟩
  rw [hfind]
  cases hrel with
  | none => rfl
  | some hrel => rw [hrel, Option.map_some, Option.map_some, Value.ofPoints_points,
      String.ofList_toList]

/-- No parameter of a query is null. -/
theorem isNull_of_mem_compile (h : q.compile = .ok fields) :
    ∀ field ∈ fields, field.2.isNull = false := by
  obtain ⟨filter?, order?, -, -, rfl⟩ := compile_eq_ok h
  intro field hfield
  simpa using (List.mem_filter.mp hfield).2

/-- A limit, an offset and a search term that are set are among the parameters. -/
theorem mem_compile (h : q.compile = .ok fields) {field : String × Value}
    (hfield : field ∈ [("$top", q.top), ("$skip", q.skip), ("$search", q.search)])
    (hset : field.2.isNull = false) : field ∈ fields := by
  obtain ⟨filter?, order?, -, -, rfl⟩ := compile_eq_ok h
  refine List.mem_filter.mpr ⟨?_, by simpa using hset⟩
  exact List.mem_append_right [("$filter", Value.ofPoints? filter?),
    ("$orderby", Value.ofPoints? order?)] hfield

/-- A limit among the parameters of a query is the one that is set, and so is an offset. -/
theorem eq_of_mem_compile (h : q.compile = .ok fields) {v : Value} :
    (("$top", v) ∈ fields → v = q.top) ∧ (("$skip", v) ∈ fields → v = q.skip) := by
  obtain ⟨filter?, order?, -, -, rfl⟩ := compile_eq_ok h
  constructor
  · intro hv
    simpa [candidates] using (List.mem_filter.mp hv).1
  · intro hv
    simpa [candidates] using (List.mem_filter.mp hv).1

/-- Whether a query compiles does not depend on its limit. -/
theorem compile_set_top (q : Query) (v : Value) :
    FailAlike q.compile (q.set (.top v)).compile := by
  refine .bind (failAlike_rfl q.filterPoints) fun filter? filter?' => ?_
  dsimp only [set]
  cases q.sortOrder with
  | none => exact failAlike_ok _ _
  | some order => exact .bind (failAlike_rfl order.points) fun _ _ => failAlike_ok _ _

/-- No two parameters of a query have one name. -/
theorem nodup_compile (h : q.compile = .ok fields) : (fields.map Prod.fst).Nodup := by
  obtain ⟨filter?, order?, -, -, rfl⟩ := compile_eq_ok h
  have hnames : ((q.candidates (.ofPoints? filter?) (.ofPoints? order?)).map Prod.fst).Nodup := by
    show ["$filter", "$orderby", "$top", "$skip", "$search"].Nodup
    decide
  exact hnames.sublist (List.filter_sublist.map _)

/-- What holds of texts and of the limit, offset and search term that are set holds of every
parameter. -/
theorem forall_mem_compile {P : Value → Prop} (h : q.compile = .ok fields)
    (htext : ∀ ps, P (.ofPoints ps))
    (hset : ∀ v ∈ [q.top, q.skip, q.search], v.isNull = false → P v) :
    ∀ field ∈ fields, P field.2 := by
  have hnull := isNull_of_mem_compile h
  obtain ⟨filter?, order?, -, -, rfl⟩ := compile_eq_ok h
  have hof : ∀ ps? : Option (List Text.Point), (Value.ofPoints? ps?).isNull = false →
      P (.ofPoints? ps?) := by
    intro ps? hnull
    cases ps? with
    | none => cases hnull
    | some ps => exact htext ps
  have hcandidates : ∀ field ∈ q.candidates (.ofPoints? filter?) (.ofPoints? order?),
      field.2.isNull = false → P field.2 := by
    simp only [candidates, List.forall_mem_cons] at hset ⊢
    exact ⟨hof filter?, hof order?, hset.1, hset.2.1, hset.2.2.1, List.forall_mem_nil _⟩
  intro field hfield
  exact hcandidates field (List.mem_filter.mp hfield).1 (hnull field hfield)

/-- An order that can be written, or none, is written. -/
theorem mapM_order_ok
    (horder : ∀ order, q.sortOrder = some order → ∃ text, order.render = .ok text) :
    ∃ order?, q.sortOrder.mapM SortOrder.render = .ok order? := by
  cases hq : q.sortOrder with
  | none => exact ⟨none, rfl⟩
  | some order =>
    obtain ⟨text, htext⟩ := horder order hq
    exact ⟨some text, by rw [Option.mapM_some, htext]; rfl⟩

/-- A query compiles if every member of its filter and its order can be written. -/
theorem compile_ok (hparts : ∀ part ∈ q.parts, ∃ text, part.render = .ok text)
    (horder : ∀ order, q.sortOrder = some order → ∃ text, order.render = .ok text) :
    ∃ fields, q.compile = .ok fields := by
  obtain ⟨texts, htexts⟩ := mapM_ok hparts
  obtain ⟨order?, horder?⟩ := mapM_order_ok horder
  have hfilters := filterPoints_alike (q := q) isSpelling_mended fun part _ => part.speltBy_mended
  have horders := SortOrder.mapM_points_alike isSpelling_mended fun order
    (_ : q.sortOrder = some order) => order.speltBy_mended
  rw [filterText_of_written htexts] at hfilters
  rw [horder?] at horders
  obtain ⟨filterPoints?, hfilter, -⟩ := hfilters.ok_right
  obtain ⟨orderPoints?, horder, -⟩ := horders.ok_right
  exact ⟨_, compile_of_points hfilter horder⟩

end Query

end ContentGateway
