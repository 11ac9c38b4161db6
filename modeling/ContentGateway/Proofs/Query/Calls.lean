import Mathlib
import ContentGateway.Proofs.Query.Written
import ContentGateway.Query.Workbench

/-!
# Calls on a query

A call makes a setting, unless it fails. Whatever order calls come in, a query holds all the filter
members that they made, in order, and the last of everything else, and compiles to that. Only a raw
expression that is no text keeps it from compiling.
-/

namespace ContentGateway

namespace Query

/-! ## What settings leave behind -/

namespace Setting

def part? : Setting → Option FilterPart
  | .filter part => some part
  | _ => none

def order? : Setting → Option SortOrder
  | .orderBy order => some order
  | _ => none

def limit? : Setting → Option Value
  | .top limit => some limit
  | _ => none

def offset? : Setting → Option Value
  | .skip offset => some offset
  | _ => none

def term? : Setting → Option Value
  | .search term => some term
  | _ => none

end Setting

/-- The last of the values that settings set, null if they set none. -/
def lastValue (value? : Setting → Option Value) (settings : List Setting) : Value :=
  ((settings.filterMap value?).getLast?).getD .null

def lastOrder (settings : List Setting) : Option SortOrder :=
  (settings.filterMap Setting.order?).getLast?

/-- A query holds every filter member of its settings in order, and the last of everything else. -/
theorem foldl_set (settings : List Setting) :
    settings.foldl set empty = {
      parts := settings.filterMap Setting.part?
      sortOrder := lastOrder settings
      top := lastValue Setting.limit? settings
      skip := lastValue Setting.offset? settings
      search := lastValue Setting.term? settings } := by
  induction settings using List.reverseRecOn with
  | nil => rfl
  | append_singleton settings s ih =>
    rw [List.foldl_append, ih]
    cases s <;>
      simp [set, lastOrder, lastValue, Setting.part?, Setting.order?, Setting.limit?,
        Setting.offset?, Setting.term?, List.filterMap_append]

/-- A filter member commutes with a setting of any other kind. -/
theorem set_comm (q : Query) {s t : Setting} {part : FilterPart} (hs : s.part? = some part)
    (ht : t.part? = none) : (q.set s).set t = (q.set t).set s := by
  cases s with
  | filter => cases t with
    | filter => cases ht
    | _ => rfl
  | _ => cases hs

/-! ## Calls -/

/-- The setting that a call makes, if it does not fail. -/
def Call.made? (call : Call) : Option Setting := call.setting.toOption

def made (calls : List Call) : List Setting := calls.filterMap Call.made?

def Call.IsFilter : Call → Prop
  | .filter .. | .raw _ => True
  | _ => False

/-- Whether what a call puts into text can be shown. -/
def Call.IsShowable : Call → Prop
  | .filter field _ operand => field.IsShowable ∧ operand.IsShowable
  | .raw expression => ∀ t, expression ≠ .unpaired t
  | .orderBy order => order.field.IsShowable ∧ order.direction.IsShowable
  | _ => True

/-- The items of a sequence can be shown if it can. -/
theorem elements_isShowable {v : Value} (h : v.IsShowable) {vs : List Value}
    (hvs : v.elements = .ok vs) : ∀ w ∈ vs, w.IsShowable := by
  cases h with
  | list h =>
    cases hvs
    exact h
  | text s =>
    cases hvs
    intro w hw
    obtain ⟨c, -, rfl⟩ := List.mem_map.mp hw
    exact .text _
  | dict h =>
    cases hvs
    intro w hw
    obtain ⟨field, -, rfl⟩ := List.mem_map.mp hw
    exact .text _
  | bytes data =>
    cases hvs
    intro w hw
    obtain ⟨b, -, rfl⟩ := List.mem_map.mp hw
    refine .int ?_
    have hb := b.toNat_lt
    have hlimit : 10 ^ 3 ≤ 10 ^ Decimal.digitLimit := Nat.pow_le_pow_right (by norm_num) (by decide)
    omega
  | _ => cases hvs

/-- A filter call that does not fail adds a clause on its field, and a membership a list. -/
theorem Call.setting_filter {field operand : Value} {op : Operator} {s : Setting}
    (h : (Call.filter field op operand).setting = .ok s) :
    ∃ v, s = .filter (.clause ⟨field, op, v⟩) ∧ (operand.IsShowable → v.IsShowable) ∧
      (op = .isIn → ∃ vs, v = .list vs) := by
  by_cases hop : op = .isIn
  · subst hop
    obtain ⟨c, hc, h⟩ := bind_eq_ok.mp h
    obtain ⟨vs, hvs, hc⟩ := bind_eq_ok.mp hc
    cases hc
    cases h
    exact ⟨.list vs, rfl, fun hshow => .list (elements_isShowable hshow hvs), fun _ => ⟨vs, rfl⟩⟩
  · rw [Call.setting] at h
    · cases h
      exact ⟨operand, rfl, id, fun hin => absurd hin hop⟩
    · exact hop

/-- A filter member that a call adds can be written, unless the call gave a raw expression that is
no text. -/
theorem Call.render_part {call : Call} (hshow : call.IsShowable) {part : FilterPart}
    (h : call.setting = .ok (.filter part)) :
    (∃ text, part.render = .ok text) ∨ ∃ e, call = .raw e ∧ (∀ s, e ≠ .text s) ∧
      part.render = .error (.misuse .noSuchMember) := by
  cases call with
  | filter field op operand =>
    obtain ⟨v, hpart, hoperand, hlist⟩ := setting_filter h
    cases hpart
    have hv := hoperand hshow.2
    refine .inl (Clause.render_ok hshow.1.render_ok hv.render_ok fun hin => ?_)
    obtain ⟨vs, rfl⟩ := hlist hin
    exact ⟨vs, rfl, fun w hw => (elements_isShowable hv rfl w hw).render_ok⟩
  | raw e =>
    cases h
    by_cases he : ∃ s, e = .text s
    · obtain ⟨s, rfl⟩ := he
      exact .inl ⟨s, rfl⟩
    · have hne : ∀ s, e ≠ .text s := not_exists.mp he
      refine .inr ⟨e, rfl, hne, ?_⟩
      rw [FilterPart.render]
      · exact hne
      · exact hshow
  | _ => cases h

/-- There is no broken text in a filter member that a call adds. -/
theorem Call.part_isWhole {call : Call} (hshow : call.IsShowable) {part : FilterPart}
    (h : call.setting = .ok (.filter part)) : part.IsWhole := by
  cases call with
  | filter field op operand =>
    obtain ⟨v, hpart, hoperand, hlist⟩ := setting_filter h
    cases hpart
    have hv := hoperand hshow.2
    refine ⟨Value.speltBy_of_ne hshow.1.ne_unpaired, Value.speltBy_of_ne hv.ne_unpaired, ?_⟩
    intro hin vs hvs w hw
    exact Value.speltBy_of_ne (elements_isShowable hv hvs w hw).ne_unpaired
  | raw e =>
    cases h
    exact fun t ht => absurd ht (hshow t)
  | _ => cases h

/-- A call that sets an order is given it. -/
theorem Call.eq_of_setting_orderBy {call : Call} {order : SortOrder}
    (h : call.setting = .ok (.orderBy order)) : call = .orderBy order := by
  cases call with
  | orderBy =>
    cases h
    rfl
  | filter field op operand =>
    obtain ⟨v, hsetting, -⟩ := setting_filter h
    cases hsetting
  | _ => cases h

/-- An order that a call sets can be written. -/
theorem Call.render_order {call : Call} (hshow : call.IsShowable) {order : SortOrder}
    (h : call.setting = .ok (.orderBy order)) : ∃ text, order.render = .ok text := by
  obtain rfl := eq_of_setting_orderBy h
  obtain ⟨field, hfield⟩ := hshow.1.render_ok .bare
  obtain ⟨direction, hdirection⟩ := hshow.2.render_ok .bare
  have hfield : order.field.display = .ok field := hfield
  have hdirection : order.direction.display = .ok direction := hdirection
  exact ⟨_, by rw [SortOrder.render, hfield, hdirection]; rfl⟩

/-- There is no broken text in an order that a call sets. -/
theorem Call.order_isWhole {call : Call} (hshow : call.IsShowable) {order : SortOrder}
    (h : call.setting = .ok (.orderBy order)) : order.IsWhole := by
  obtain rfl := eq_of_setting_orderBy h
  exact ⟨Value.speltBy_of_ne hshow.1.ne_unpaired, Value.speltBy_of_ne hshow.2.ne_unpaired⟩

/-- A call makes a filter member exactly if it is a filter call. -/
theorem Call.part_of_setting {call : Call} {s : Setting} (h : call.setting = .ok s) :
    (call.IsFilter ∧ ∃ part, s.part? = some part) ∨ (¬ call.IsFilter ∧ s.part? = none) := by
  cases call with
  | filter field op operand =>
    obtain ⟨v, rfl, -⟩ := setting_filter h
    exact .inl ⟨trivial, _, rfl⟩
  | raw e =>
    cases h
    exact .inl ⟨trivial, _, rfl⟩
  | _ =>
    cases h
    exact .inr ⟨id, rfl⟩

/-- A setting is made by a call that makes it. -/
theorem mem_made {calls : List Call} {s : Setting} :
    s ∈ made calls ↔ ∃ call ∈ calls, call.setting = .ok s := by
  rw [made, List.mem_filterMap]
  refine exists_congr fun call => and_congr_right fun _ => ?_
  rw [Call.made?]
  cases call.setting <;> simp [Except.toOption]

def madeParts (calls : List Call) : List FilterPart := (made calls).filterMap Setting.part?

/-- A member is made by a call that adds it. -/
theorem mem_madeParts {calls : List Call} {part : FilterPart} :
    part ∈ madeParts calls ↔ ∃ call ∈ calls, call.setting = .ok (.filter part) := by
  have hpart : ∀ s : Setting, s.part? = some part ↔ s = .filter part := by
    intro s
    cases s <;> simp [Setting.part?]
  simp only [madeParts, List.mem_filterMap, hpart, exists_eq_right, mem_made]

/-- The last sort order was set by one of the settings. -/
theorem lastOrder_mem {settings : List Setting} {order : SortOrder}
    (h : lastOrder settings = some order) : .orderBy order ∈ settings := by
  obtain ⟨s, hs, horder⟩ := List.mem_filterMap.mp (List.mem_of_getLast? h)
  cases s with
  | orderBy => cases horder; exact hs
  | _ => cases horder

/-- Calls whose filter members and last order are written compile to these, and to the last limit,
offset and search term. -/
theorem compile_made {calls : List Call} (hshow : ∀ call ∈ calls, call.IsShowable)
    {texts : List String} {order? : Option String}
    (htexts : (madeParts calls).mapM FilterPart.render = .ok texts)
    (horder : (lastOrder (made calls)).mapM SortOrder.render = .ok order?) :
    ((made calls).foldl set empty).compile = .ok ([
      ("$filter", .ofText? (if texts = [] then none else some (" and ".intercalate texts))),
      ("$orderby", .ofText? order?),
      ("$top", lastValue Setting.limit? (made calls)),
      ("$skip", lastValue Setting.offset? (made calls)),
      ("$search", lastValue Setting.term? (made calls))].filter fun field => !field.2.isNull) := by
  rw [foldl_set]
  refine compile_of_written (filterText_of_written htexts) horder (fun part hpart => ?_)
    fun order horder => ?_
  · obtain ⟨call, hcall, hsetting⟩ := mem_madeParts.mp hpart
    exact Call.part_isWhole (hshow call hcall) hsetting
  · obtain ⟨call, hcall, hsetting⟩ := mem_made.mp (lastOrder_mem horder)
    exact Call.order_isWhole (hshow call hcall) hsetting

/-- Calls whose values can be shown compile, unless one of them gave a raw expression that is no
text. -/
theorem compile_made_cases {calls : List Call} (hshow : ∀ call ∈ calls, call.IsShowable) :
    ((∃ e, Call.raw e ∈ calls ∧ ∀ s, e ≠ .text s) ∧
      ((made calls).foldl set empty).compile = .error (.misuse .noSuchMember)) ∨
    ((∀ e, Call.raw e ∈ calls → ∃ s, e = .text s) ∧ ∃ texts order?,
      (madeParts calls).mapM FilterPart.render = .ok texts ∧
      (lastOrder (made calls)).mapM SortOrder.render = .ok order?) := by
  have hparts : ∀ part ∈ madeParts calls, (∃ text, part.render = .ok text) ∨
      ∃ e, Call.raw e ∈ calls ∧ (∀ s, e ≠ .text s) ∧
        part.render = .error (.misuse .noSuchMember) := by
    intro part hpart
    obtain ⟨call, hcall, hsetting⟩ := mem_madeParts.mp hpart
    apply (Call.render_part (hshow call hcall) hsetting).imp_right
    rintro ⟨e, rfl, hne, hrender⟩
    exact ⟨e, hcall, hne, hrender⟩
  by_cases hraw : ∃ e, Call.raw e ∈ calls ∧ ∀ s, e ≠ .text s
  · refine .inl ⟨hraw, ?_⟩
    obtain ⟨e, hcall, hne⟩ := hraw
    rw [foldl_set]
    apply compile_of_mapM_error
    show (madeParts calls).mapM FilterPart.render = _
    have hmem : FilterPart.raw e ∈ madeParts calls := mem_madeParts.mpr ⟨.raw e, hcall, rfl⟩
    cases hrender : (madeParts calls).mapM FilterPart.render with
    | ok texts =>
      -- the expression is among the members, so it would have been written
      obtain ⟨text, -, htext⟩ := mapM_mem hrender hmem
      rw [FilterPart.render] at htext
      · cases htext
      · exact hne
      · exact hshow _ hcall
    | error f =>
      obtain ⟨part, hpart, hfail⟩ := mapM_error hrender
      rcases hparts part hpart with ⟨text, htext⟩ | ⟨_, -, -, hmisuse⟩
      · rw [htext] at hfail
        cases hfail
      · rw [hmisuse] at hfail
        cases hfail
        rfl
  · have htext : ∀ e, Call.raw e ∈ calls → ∃ s, e = .text s := by
      intro e he
      by_contra hne
      exact hraw ⟨e, he, not_exists.mp hne⟩
    obtain ⟨texts, htexts⟩ := mapM_ok fun part hpart =>
      (hparts part hpart).resolve_right fun ⟨e, he, hne, _⟩ => hraw ⟨e, he, hne⟩
    obtain ⟨order?, horder⟩ := mapM_order_ok (q := (made calls).foldl set empty) fun order h => by
      rw [foldl_set] at h
      obtain ⟨call, hcall, hsetting⟩ := mem_made.mp (lastOrder_mem h)
      exact Call.render_order (hshow call hcall) hsetting
    rw [foldl_set] at horder
    exact .inr ⟨htext, texts, order?, htexts, horder⟩

end Query

end ContentGateway
