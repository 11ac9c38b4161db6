import Mathlib
import ContentGateway.Proofs.Content.Paging

/-!
# Shapes of replies

A reply of success can hold any value. It is read as a content if it is an object with an
identifier, and as a page if it is an object whose items, if there are any, are such objects; a
value that counts as absent is an empty page. Whatever else there is, reading it fails by a misuse
of the value.
-/

namespace ContentGateway

/-! ## Well-shaped values -/

/-- Whether a fault says that a value lacks what was asked of it: a key, a member, or the right
type. -/
def Fault.IsBadShape : Fault → Prop
  | .misuse .missingKey | .misuse .noSuchMember | .misuse .wrongType => True
  | _ => False

def Value.IsObject (v : Value) : Prop := ∃ fields, v = .dict fields

/-- Whether a value may stand as the items of a page: it counts as absent, or is a list of items. -/
def Value.IsListing (items : Value) : Prop :=
  items.truthy = false ∨ ∃ vs, items = .list vs ∧ ∀ v ∈ vs, v.IsItem

/-- Whether a value is a page: it counts as absent, or is an object with a listing. -/
def Value.IsPage (v : Value) : Prop :=
  v.truthy = false ∨ ∃ fields, v = .dict fields ∧ (Fields.get fields "items").IsListing

/-- Whether a value is a page from which a walk can go on: what it gives as total is a number, or
nothing. -/
def Value.IsWalkable (v : Value) : Prop :=
  v.IsPage ∧ ∀ fields, v = .dict fields →
    Fields.get fields "total" = .null ∨ (Fields.get fields "total").number?.isSome

/-! ## Contents -/

namespace Content

/-- A value is read as a content exactly if it is an item; otherwise it is badly shaped. -/
theorem ofValue_cases (v : Value) :
    (v.IsItem ∧ ∃ c, ofValue v = .ok c) ∨
      (¬ v.IsItem ∧ ∃ f, ofValue v = .error f ∧ f.IsBadShape) := by
  cases v with
  | dict fields =>
    rw [ofValue]
    cases hid : Fields.find? "id" fields with
    | some id => exact .inl ⟨⟨fields, id, rfl, hid⟩, _, rfl⟩
    | none =>
      refine .inr ⟨?_, _, rfl, trivial⟩
      rintro ⟨fields', id, hfields, hid'⟩
      cases hfields
      rw [hid] at hid'
      cases hid'
  | _ =>
    refine .inr ⟨?_, _, rfl, trivial⟩
    rintro ⟨fields, id, hfields, -⟩
    cases hfields

/-- A reply holds a content, or no object, or is badly shaped. -/
theorem ofReply_cases (v : Value) :
    (v.IsItem ∧ ∃ c, ofReply v = .ok (some c)) ∨ (¬ v.IsObject ∧ ofReply v = .ok none) ∨
      (v.IsObject ∧ ¬ v.IsItem ∧ ∃ f, ofReply v = .error f ∧ f.IsBadShape) := by
  by_cases hobject : v.IsObject
  · obtain ⟨fields, rfl⟩ := hobject
    rw [ofReply]
    rcases ofValue_cases (.dict fields) with ⟨hitem, c, hc⟩ | ⟨hitem, f, hf, hbad⟩
    · exact .inl ⟨hitem, c, by rw [hc]; rfl⟩
    · exact .inr (.inr ⟨⟨fields, rfl⟩, hitem, f, by rw [hf]; rfl, hbad⟩)
  · refine .inr (.inl ⟨hobject, ?_⟩)
    rw [ofReply]
    exact fun fields hfields => hobject ⟨fields, hfields⟩

end Content

/-! ## Pages -/

/-- A list is read as contents exactly if it holds items only; otherwise it is badly shaped. -/
theorem mapM_ofValue_cases (vs : List Value) :
    ((∀ v ∈ vs, v.IsItem) ∧ ∃ cs, vs.mapM Content.ofValue = .ok cs) ∨
      ((¬ ∀ v ∈ vs, v.IsItem) ∧ ∃ f, vs.mapM Content.ofValue = .error f ∧ f.IsBadShape) := by
  cases hread : vs.mapM Content.ofValue with
  | ok cs =>
    refine .inl ⟨fun v hv => ?_, cs, rfl⟩
    obtain ⟨c, -, hc⟩ := mapM_mem hread hv
    rcases Content.ofValue_cases v with ⟨hitem, -⟩ | ⟨-, f, hf, -⟩
    · exact hitem
    · rw [hf] at hc
      cases hc
  | error f =>
    obtain ⟨v, hv, hfail⟩ := mapM_error hread
    rcases Content.ofValue_cases v with ⟨-, c, hc⟩ | ⟨hitem, g, hg, hbad⟩
    · rw [hc] at hfail
      cases hfail
    · rw [hg] at hfail
      cases hfail
      exact .inr ⟨fun h => hitem (h v hv), f, rfl, hbad⟩

/-- A list of items is read as contents. -/
theorem contents_of_isItem {vs : List Value} (h : ∀ v ∈ vs, v.IsItem) :
    ∃ cs, vs.mapM Content.ofValue = .ok cs := by
  rcases mapM_ofValue_cases vs with ⟨-, hread⟩ | ⟨hnot, -⟩
  · exact hread
  · exact absurd h hnot

/-- A sequence that is no list holds no item. -/
theorem not_isItem_of_elements {items : Value} (hlist : ∀ vs, items ≠ .list vs) {vs : List Value}
    (h : items.elements = .ok vs) : ∀ v ∈ vs, ¬ v.IsItem := by
  rintro v hv ⟨fields, id, rfl, -⟩
  cases items with
  | list => exact hlist _ rfl
  | text s =>
    cases h
    obtain ⟨c, -, hc⟩ := List.mem_map.mp hv
    cases hc
  | unpaired t =>
    cases h
    obtain ⟨p, -, hp⟩ := List.mem_map.mp hv
    rcases Value.ofPoints_cases [p] with ⟨_, -, htext⟩ | htext <;> cases htext.symm.trans hp
  | dict others =>
    cases h
    obtain ⟨other, -, hother⟩ := List.mem_map.mp hv
    cases hother
  | bytes data =>
    cases h
    obtain ⟨b, -, hb⟩ := List.mem_map.mp hv
    cases hb
  | _ => cases h

/-- A sequence that counts as present has an element. -/
theorem ne_nil_of_elements {items : Value} (htruthy : items.truthy) {vs : List Value}
    (h : items.elements = .ok vs) : vs ≠ [] := by
  rintro rfl
  cases items with
  | text s => simp_all [Value.elements, Value.truthy]
  | unpaired t => exact t.points_ne_nil (List.map_eq_nil_iff.mp (Except.ok.inj h))
  | _ => simp_all [Value.elements, Value.truthy]

def Page.contents (items : Value) : Except Fault (List Content) := do
  (← (items.orElse (.list [])).elements).mapM Content.ofValue

/-- The items of a page give contents exactly if they are a listing. -/
theorem Page.contents_cases (items : Value) :
    (items.IsListing ∧ ∃ cs, contents items = .ok cs) ∨
      (¬ items.IsListing ∧ ∃ f, contents items = .error f ∧ f.IsBadShape) := by
  by_cases htruthy : items.truthy
  · have hitems : items.orElse (.list []) = items := by rw [Value.orElse, if_pos htruthy]
    rw [contents, hitems]
    by_cases hlist : ∃ vs, items = .list vs
    · obtain ⟨vs, rfl⟩ := hlist
      apply (mapM_ofValue_cases vs).imp
      · exact fun ⟨hvs, hread⟩ => ⟨.inr ⟨vs, rfl, hvs⟩, hread⟩
      · refine fun ⟨hvs, hread⟩ => ⟨?_, hread⟩
        rintro (hfalsy | ⟨ws, hws, hitem⟩)
        · rw [htruthy] at hfalsy
          cases hfalsy
        · cases hws
          exact hvs hitem
    · have hnot : ¬ items.IsListing := by
        rintro (hfalsy | ⟨vs, hvs, -⟩)
        · rw [htruthy] at hfalsy
          cases hfalsy
        · exact hlist ⟨vs, hvs⟩
      refine .inr ⟨hnot, ?_⟩
      cases helements : items.elements with
      | error f =>
        refine ⟨f, rfl, ?_⟩
        cases items <;> cases helements <;> trivial
      | ok vs =>
        -- the first element is no item
        have hnone := not_isItem_of_elements (not_exists.mp hlist) helements
        rcases mapM_ofValue_cases vs with ⟨hall, -⟩ | ⟨-, hread⟩
        · obtain ⟨v, hv⟩ := List.exists_mem_of_ne_nil vs (ne_nil_of_elements htruthy helements)
          exact absurd (hall v hv) (hnone v hv)
        · exact hread
  · have hfalsy : items.truthy = false := by simpa using htruthy
    refine .inl ⟨.inl hfalsy, [], ?_⟩
    rw [contents, Value.orElse, if_neg htruthy]
    rfl

/-- The fields of an object are read as a page if they hold a listing. -/
theorem Page.ofValue_dict (fields : Fields) :
    Page.ofValue (.dict fields) = (contents (Fields.get fields "items")).bind fun items =>
      .ok ⟨if (Fields.get fields "total").isNull then .int items.length
        else Fields.get fields "total", items⟩ := by
  rw [Page.ofValue, contents]
  simp only [bind, Except.bind, pure, Except.pure]
  cases ((Fields.get fields "items").orElse (.list [])).elements with
  | error f => rfl
  | ok entries => rfl

/-- The total of a page is a number if the reply gives one, or gives nothing. -/
theorem Page.total_isSome_iff (total : Value) (count : ℕ) :
    (if total.isNull then Value.int count else total).number?.isSome ↔
      total = .null ∨ total.number?.isSome := by
  cases total <;> simp [Value.isNull, Value.number?]

/-- A reply is read as a page exactly if it is one, and otherwise is badly shaped. The page has a
number as its total exactly if a walk can go on from it. -/
theorem Page.ofReply_cases (v : Value) :
    (v.IsPage ∧ ∃ p, Page.ofReply v = .ok p ∧ (p.total.number?.isSome ↔ v.IsWalkable)) ∨
      (¬ v.IsPage ∧ ∃ f, Page.ofReply v = .error f ∧ f.IsBadShape) := by
  by_cases htruthy : v.truthy
  · rw [Page.ofReply, Value.orElse, if_pos htruthy]
    by_cases hobject : v.IsObject
    · obtain ⟨fields, rfl⟩ := hobject
      have hpage : (Value.dict fields).IsPage ↔ (Fields.get fields "items").IsListing := by
        constructor
        · rintro (hfalsy | ⟨others, hothers, hlisting⟩)
          · rw [htruthy] at hfalsy
            cases hfalsy
          · cases hothers
            exact hlisting
        · exact fun hlisting => .inr ⟨fields, rfl, hlisting⟩
      rw [Page.ofValue_dict, hpage]
      rcases Page.contents_cases (Fields.get fields "items") with
        ⟨hlisting, cs, hcs⟩ | ⟨hlisting, f, hf, hbad⟩
      · refine .inl ⟨hlisting, _, by rw [hcs]; rfl, ?_⟩
        rw [Value.IsWalkable, hpage, Page.total_isSome_iff]
        refine ⟨fun htotal => ⟨hlisting, ?_⟩, fun h => h.2 fields rfl⟩
        rintro others hothers
        cases hothers
        exact htotal
      · exact .inr ⟨hlisting, f, by rw [hf]; rfl, hbad⟩
    · refine .inr ⟨?_, .misuse .noSuchMember, ?_, trivial⟩
      · rintro (hfalsy | ⟨fields, hfields, -⟩)
        · rw [htruthy] at hfalsy
          cases hfalsy
        · exact hobject ⟨fields, hfields⟩
      · rw [Page.ofValue]
        exact fun fields hfields => hobject ⟨fields, hfields⟩
  · have hfalsy : v.truthy = false := by simpa using htruthy
    refine .inl ⟨.inl hfalsy, ⟨.int 0, []⟩, ?_, ?_⟩
    · rw [Page.ofReply, Value.orElse, if_neg htruthy]
      rfl
    · refine iff_of_true rfl ⟨.inl hfalsy, ?_⟩
      rintro fields rfl
      cases fields with
      | nil => exact .inl rfl
      | cons => cases hfalsy

/-! ## Going on behind a page -/

/-- A whole number is compared with any number, and with nothing else. -/
theorem Value.atLeast_int_cases (a : ℤ) (w : Value) :
    (w.number?.isSome ∧ ∃ reached, (Value.int a).atLeast w = .ok reached) ∨
      (¬ w.number?.isSome ∧ (Value.int a).atLeast w = .error (.misuse .wrongType)) := by
  have horder : (Value.int a).order w =
      w.number?.elim (.error (.misuse .wrongType)) fun n => .ok ((Number.int a).compare? n) := by
    rw [order.eq_def]
    cases w <;> rfl
  rw [atLeast, horder]
  cases w.number? with
  | none => exact .inr ⟨Bool.noConfusion, rfl⟩
  | some n =>
    refine .inl ⟨rfl, ?_⟩
    simp only [bind, Except.bind, Option.elim_some]
    split <;> exact ⟨_, rfl⟩

/-- Behind a page whose total is a number a walk from a whole number ends, or goes on from another
one. With any other total it cannot tell. -/
theorem Walk.nextOffset_cases (o : ℤ) (p : Page) :
    (p.total.number?.isSome ∧ (nextOffset (.int o) p = .ok none ∨
        ∃ o' : ℤ, nextOffset (.int o) p = .ok (some (.int o')))) ∨
      (¬ p.total.number?.isSome ∧ nextOffset (.int o) p = .error (.misuse .wrongType)) := by
  have hplus : (Value.int o).plus p.items.length = .ok (.int (o + p.items.length)) := rfl
  rw [nextOffset, hplus]
  rcases Value.atLeast_int_cases (o + p.items.length) p.total with
    ⟨hnumber, reached, hreached⟩ | ⟨hnumber, hwrong⟩
  · refine .inl ⟨hnumber, ?_⟩
    simp only [bind, Except.bind, hreached]
    by_cases hlast : (reached || p.items.isEmpty) = true
    · exact .inl (by rw [if_pos hlast]; rfl)
    · exact .inr ⟨o + p.items.length, by rw [if_neg hlast]; rfl⟩
  · refine .inr ⟨hnumber, ?_⟩
    simp only [bind, Except.bind, hwrong]

end ContentGateway
