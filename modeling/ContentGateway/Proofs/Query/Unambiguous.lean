import Mathlib
import ContentGateway.Proofs.Query.Boundary
import ContentGateway.Proofs.Query.Compiled

/-!
# Filter texts are unambiguous

A filter is text without escapes, and three things separate its parts: commas in a list, `and`
between clauses, and the marks inside a clause. Under the documented precondition, which keeps marks
out of the fields and single quotes out of the text operands, the text still determines the clauses:
the first word of a clause and the mark behind it tell a function from any other operator, and after
that each operator says how its operand ends. An operand's own commas, parentheses or ` and ` are
never taken for those of the filter, and only numbers that are written alike are confused.
-/

namespace ContentGateway

namespace Operator

/-- Whether an operator is written in front of its field and operand. -/
def isFunction : Operator → Bool
  | .contains | .startsWith | .endsWith => true
  | _ => false

/-- The operands that an operator is documented to take. -/
def Takes : Operator → Value → Prop
  | .equals, v | .notEquals, v => v.IsScalar
  | .greaterThan, v | .greaterOrEqual, v | .lessThan, v | .lessOrEqual, v => v.IsUnquoted
  | .contains, v | .startsWith, v | .endsWith, v => v.IsQuotable
  | .isIn, .list vs => ∀ v ∈ vs, v.IsScalar
  | .isIn, _ => False
  | .other _, _ => False

/-- An operator that takes operands has a word of its own. -/
theorem mem_known {op : Operator} {v : Value} (h : op.Takes v) : op ∈ known := by
  cases op with
  | other _ => exact h.elim
  | _ => simp [known]

/-- An operator is found by its word. -/
theorem ofWord_word : ∀ op ∈ known, ofWord op.word = op := by decide

/-- Documented operators with the same word are the same. -/
theorem eq_of_word {op op' : Operator} {v w : Value} (hv : op.Takes v) (hw : op'.Takes w)
    (h : op.word = op'.word) : op = op' := by
  rw [← ofWord_word op (mem_known hv), h, ofWord_word op' (mem_known hw)]

/-- The word of an operator has no mark. -/
theorem isWord_word {op : Operator} {v : Value} (h : op.Takes v) : IsWord op.word.toList := by
  cases op with
  | other _ => exact h.elim
  | _ => simp [IsWord, word, isMark]

/-- What stands behind the word of an operator that is not a function. -/
def operandText : Operator → Value → Except Fault String
  | .equals, v | .notEquals, v => v.literal
  | .isIn, v => do
    let values ← (← v.elements).mapM Value.literal
    return "(" ++ ",".intercalate values ++ ")"
  | _, v => v.plain

end Operator

/-- Whether two operands, or the items of two lists, are the same as far as a filter text can
tell. -/
def Value.SameOperands (v w : Value) : Prop :=
  v.SameOperand w ∨ ∃ vs ws, v = .list vs ∧ w = .list ws ∧ List.Forall₂ Value.SameOperand vs ws

namespace Clause

/-- The documented precondition: the field is a text without marks, and the operand is one that the
operator takes. -/
structure IsDocumented (c : Clause) : Prop where
  field : ∃ name, c.field = .text name ∧ IsWord name.toList
  operand : c.operator.Takes c.operand

/-- Whether two clauses are the same as far as a filter text can tell. -/
structure Agrees (c d : Clause) : Prop where
  field : c.field = d.field
  operator : c.operator = d.operator
  operand : c.operand.SameOperands d.operand

/-- There is no broken text in a documented clause. -/
theorem IsDocumented.isWhole {c : Clause} (hc : c.IsDocumented) :
    (FilterPart.clause c).IsWhole := by
  obtain ⟨⟨name, hname, -⟩, htakes⟩ := hc
  obtain ⟨field, op, v⟩ := c
  obtain rfl : field = .text name := hname
  have hscalar : ∀ {w : Value}, w.IsScalar → ∀ t, w ≠ .unpaired t := by
    rintro _ hw t rfl
    exact hw.elim id id
  refine ⟨Value.speltBy_of_ne nofun, Value.speltBy_of_ne ?_, ?_⟩
  · rintro t rfl
    cases op with
    | equals | notEquals => exact hscalar htakes t rfl
    | _ => exact htakes
  · rintro rfl vs hvs w hw
    cases v with
    | list items =>
      cases hvs
      exact Value.speltBy_of_ne (hscalar (htakes w hw))
    | _ => exact htakes.elim

/-! ## The two shapes of a clause -/

/-- A function is written in front of its field, and its operand in quotes. -/
theorem render_call {c : Clause} (hop : c.operator.isFunction) {name : String}
    (hname : c.field = .text name) {t : String} (ht : c.render = .ok t) :
    ∃ s, c.operand.display = .ok s ∧ t.toList = c.operator.word.toList ++
      '(' :: (name.toList ++ ',' :: ' ' :: '\'' :: (s.toList ++ '\'' :: [')'])) := by
  obtain ⟨field, op, operand⟩ := c
  obtain rfl : field = .text name := hname
  cases op with
  | contains | startsWith | endsWith =>
    obtain ⟨shown, hshown, ht⟩ := bind_eq_ok.mp ht
    cases hshown
    obtain ⟨s, hs, ht⟩ := bind_eq_ok.mp ht
    cases ht
    exact ⟨s, hs, by simp [String.toList_append]⟩
  | _ => cases hop

/-- A documented operand of a function is a text without single quotes. -/
theorem render_function {c : Clause} (hc : c.IsDocumented) (hop : c.operator.isFunction)
    {name : String} (hname : c.field = .text name) {t : String} (ht : c.render = .ok t) :
    ∃ s, c.operand = .text s ∧ '\'' ∉ s.toList ∧ t.toList = c.operator.word.toList ++
      '(' :: (name.toList ++ ',' :: ' ' :: '\'' :: (s.toList ++ '\'' :: [')'])) := by
  obtain ⟨shown, hshown, htext⟩ := render_call hop hname ht
  have hquotable : c.operand.IsQuotable := by
    have htakes := hc.operand
    cases hoperator : c.operator <;> rw [hoperator] at hop htakes
    case contains | startsWith | endsWith => exact htakes
    all_goals cases hop
  cases hoperand : c.operand with
  | text s =>
    rw [hoperand] at hshown hquotable
    cases hshown
    exact ⟨s, rfl, hquotable, htext⟩
  | _ => exact (hoperand ▸ hquotable).elim

/-- Any other operator is written between its field and its operand. -/
theorem render_relation {c : Clause} (hop : ¬ c.operator.isFunction) {name : String}
    (hname : c.field = .text name) {t : String} (ht : c.render = .ok t) :
    ∃ r, c.operator.operandText c.operand = .ok r ∧ t.toList =
      name.toList ++ ' ' :: (c.operator.word.toList ++ ' ' :: r.toList) := by
  obtain ⟨field, op, operand⟩ := c
  obtain rfl : field = .text name := hname
  cases op with
  | contains | startsWith | endsWith => exact absurd rfl hop
  | isIn =>
    obtain ⟨vs, hvs, ht⟩ := bind_eq_ok.mp ht
    obtain ⟨values, hvalues, ht⟩ := bind_eq_ok.mp ht
    cases ht
    refine ⟨"(" ++ ",".intercalate values ++ ")", ?_, by simp [String.toList_append, Operator.word]⟩
    exact bind_eq_ok.mpr ⟨vs, hvs, bind_eq_ok.mpr ⟨values, hvalues, rfl⟩⟩
  | _ =>
    obtain ⟨shown, hshown, ht⟩ := bind_eq_ok.mp ht
    cases hshown
    obtain ⟨r, hr, ht⟩ := bind_eq_ok.mp ht
    cases ht
    exact ⟨r, hr, by simp [String.toList_append]⟩

end Clause

/-! ## Clauses -/

/-- A parenthesis can close a list of literals. -/
theorem closes_list {k : List Char} : Closes Value.IsScalar Value.literal "," (')' :: k) where
  marked := beginsMarked_cons rfl k
  not_sep m h := by simp at h
  not_part v hv s hs m h := by
    obtain ⟨c, cs, hcs, hc⟩ := literal_head hv hs
    rw [hcs] at h
    exact hc (List.cons.inj h).1.symm

/-- What an operator has behind its word is delimited. -/
theorem delimited_operandText {op : Operator} (hop : ¬ op.isFunction) :
    Delimited op.Takes op.operandText Value.SameOperands := by
  intro v w hv hw s t hs ht k l hk hl h
  cases op with
  | contains | startsWith | endsWith => exact absurd rfl hop
  | other _ => exact hv.elim
  | equals | notEquals =>
    obtain ⟨hsame, hkl⟩ := delimited_literal hv hw hs ht hk hl h
    exact ⟨.inl hsame, hkl⟩
  | greaterThan | greaterOrEqual | lessThan | lessOrEqual =>
    obtain ⟨hsame, hkl⟩ := delimited_plain hv hw hs ht hk hl h
    exact ⟨.inl hsame, hkl⟩
  | isIn =>
    cases v with
    | list vs =>
      cases w with
      | list ws =>
        obtain ⟨_, hitems, hs⟩ := bind_eq_ok.mp hs
        cases hitems
        obtain ⟨_, hitems, ht⟩ := bind_eq_ok.mp ht
        cases hitems
        obtain ⟨ss, hss, hs⟩ := bind_eq_ok.mp hs
        obtain ⟨ts, hts, ht⟩ := bind_eq_ok.mp ht
        cases hs
        cases ht
        simp only [String.toList_append, List.append_assoc] at h
        -- what closes the list is its parenthesis, so what follows the clause does not matter
        have hcomma : ∀ m, BeginsMarked (",".toList ++ m) := fun m =>
          beginsMarked_cons (c := ',') rfl m
        obtain ⟨hsame, hrest⟩ := delimited_literal.intercalate_append_inj hcomma closes_list
          closes_list hv hw hss hts (List.append_cancel_left h)
        exact ⟨.inr ⟨vs, ws, rfl, rfl, hsame⟩, (List.cons.inj hrest).2⟩
      | _ => exact hw.elim
    | _ => exact hv.elim

/-- The mark behind its first word tells a function from any other clause. -/
theorem function_ne_relation {u v m n : List Char} (hu : IsWord u) (hv : IsWord v) :
    u ++ '(' :: m ≠ v ++ ' ' :: n := by
  intro h
  obtain ⟨-, h⟩ := word_append_inj hu hv (beginsMarked_cons rfl m) (beginsMarked_cons rfl n) h
  exact absurd (List.cons.inj h).1 (by decide)

/-- A documented clause is delimited. -/
theorem delimited_clause : Delimited Clause.IsDocumented Clause.render Clause.Agrees := by
  intro c d hc hd s t hs ht k l hk hl h
  obtain ⟨name, hname, hword⟩ := hc.field
  obtain ⟨name', hname', hword'⟩ := hd.field
  have hmark : ∀ {m : List Char} (c : Char), isMark c → BeginsMarked (c :: m) := fun c hc =>
    beginsMarked_cons hc _
  -- the two shapes have different marks behind their first word, so mixed cases cannot arise
  by_cases hop : c.operator.isFunction <;> by_cases hop' : d.operator.isFunction
  · obtain ⟨u, hu, hquote, hst⟩ := Clause.render_function hc hop hname hs
    obtain ⟨u', hu', hquote', htt⟩ := Clause.render_function hd hop' hname' ht
    simp only [hst, htt, List.append_assoc, List.cons_append, List.nil_append] at h
    obtain ⟨hops, h⟩ := word_append_inj (Operator.isWord_word hc.operand)
      (Operator.isWord_word hd.operand) (hmark '(' rfl) (hmark '(' rfl) h
    obtain ⟨hnames, h⟩ := word_append_inj hword hword' (hmark ',' rfl) (hmark ',' rfl)
      (List.cons.inj h).2
    simp only [List.cons.injEq, true_and] at h
    obtain ⟨hus, h⟩ := quoted_append_inj hquote hquote' h
    refine ⟨⟨?_, ?_, .inl (.inl ?_)⟩, (List.cons.inj h).2⟩
    · rw [hname, hname', String.toList_inj.mp hnames]
    · exact Operator.eq_of_word hc.operand hd.operand (String.toList_inj.mp hops)
    · rw [hu, hu', String.toList_inj.mp hus]
  · obtain ⟨_, -, -, hst⟩ := Clause.render_function hc hop hname hs
    obtain ⟨_, -, htt⟩ := Clause.render_relation hop' hname' ht
    simp only [hst, htt, List.append_assoc, List.cons_append] at h
    exact absurd h (function_ne_relation (Operator.isWord_word hc.operand) hword')
  · obtain ⟨_, -, hst⟩ := Clause.render_relation hop hname hs
    obtain ⟨_, -, -, htt⟩ := Clause.render_function hd hop' hname' ht
    simp only [hst, htt, List.append_assoc, List.cons_append] at h
    exact absurd h.symm (function_ne_relation (Operator.isWord_word hd.operand) hword)
  · obtain ⟨r, hr, hst⟩ := Clause.render_relation hop hname hs
    obtain ⟨r', hr', htt⟩ := Clause.render_relation hop' hname' ht
    simp only [hst, htt, List.append_assoc, List.cons_append] at h
    obtain ⟨hnames, h⟩ := word_append_inj hword hword' (hmark ' ' rfl) (hmark ' ' rfl) h
    obtain ⟨hops, h⟩ := word_append_inj (Operator.isWord_word hc.operand)
      (Operator.isWord_word hd.operand) (hmark ' ' rfl) (hmark ' ' rfl) (List.cons.inj h).2
    have hoperator := Operator.eq_of_word hc.operand hd.operand (String.toList_inj.mp hops)
    rw [← hoperator] at hr'
    obtain ⟨hsame, hkl⟩ := delimited_operandText hop hc.operand (hoperator ▸ hd.operand) hr hr'
      hk hl (List.cons.inj h).2
    refine ⟨⟨?_, hoperator, hsame⟩, hkl⟩
    rw [hname, hname', String.toList_inj.mp hnames]

/-- The end of the text can close a filter, since no clause is empty. -/
theorem closes_filter : Closes Clause.IsDocumented Clause.render Query.conjunction [] where
  marked := beginsMarked_nil
  not_sep m h := by simp [Query.conjunction] at h
  not_part c hc t ht m h := by
    obtain ⟨name, hname, -⟩ := hc.field
    by_cases hop : c.operator.isFunction
    · obtain ⟨_, -, -, htext⟩ := Clause.render_function hc hop hname ht
      simp [htext] at h
    · obtain ⟨_, -, htext⟩ := Clause.render_relation hop hname ht
      simp [htext] at h

/-! ## Filters -/

namespace Query

/-- The members that a setting adds to a filter. -/
def Setting.parts : Setting → List FilterPart
  | .filter part => [part]
  | _ => []

/-- A setting adds its members behind those of a query. -/
theorem set_parts (q : Query) (s : Setting) : (q.set s).parts = q.parts ++ s.parts := by
  cases s with
  | filter part => rfl
  | _ => exact (List.append_nil _).symm

/-- A run of settings gives the members in their order, whatever else it sets. -/
theorem foldl_set_parts (settings : List Setting) (q : Query) :
    (settings.foldl set q).parts = q.parts ++ settings.flatMap Setting.parts := by
  induction settings generalizing q with
  | nil => exact (List.append_nil _).symm
  | cons s settings ih =>
    rw [List.foldl_cons, ih, set_parts, List.flatMap_cons, List.append_assoc]

/-- A filter of clauses has a text exactly if it has a clause. -/
theorem filterText_clauses {q : Query} {cs : List Clause} (hq : q.parts = cs.map .clause)
    {text? : Option String} (h : q.filterText = .ok text?) :
    (cs = [] ∧ text? = none) ∨
      ∃ ts, cs.mapM Clause.render = .ok ts ∧ text? = some (conjunction.intercalate ts) := by
  rw [filterText, hq] at h
  split at h
  · next hempty =>
    cases h
    exact .inl ⟨List.map_eq_nil_iff.mp (List.isEmpty_iff.mp hempty), rfl⟩
  · obtain ⟨ts, hts, h⟩ := bind_eq_ok.mp h
    rw [List.mapM_map] at hts
    cases h
    exact .inr ⟨ts, hts, rfl⟩

/-- Two runs of settings whose filter members are documented clauses, and that compile to one filter
text or both to none, gave the same clauses in the same order. -/
theorem filter_unambiguous {settings settings' : List Setting} {cs ds : List Clause}
    (hcs : settings.flatMap Setting.parts = cs.map .clause)
    (hds : settings'.flatMap Setting.parts = ds.map .clause)
    (hc : ∀ c ∈ cs, c.IsDocumented) (hd : ∀ d ∈ ds, d.IsDocumented) {fields fields' : Fields}
    (hfields : (settings.foldl set empty).compile = .ok fields)
    (hfields' : (settings'.foldl set empty).compile = .ok fields')
    (hfilter : fields.find? "$filter" = fields'.find? "$filter") :
    List.Forall₂ Clause.Agrees cs ds := by
  have hparts : (settings.foldl set empty).parts = cs.map .clause := by
    rw [foldl_set_parts, hcs, empty, List.nil_append]
  have hparts' : (settings'.foldl set empty).parts = ds.map .clause := by
    rw [foldl_set_parts, hds, empty, List.nil_append]
  have hwhole : ∀ {cs : List Clause}, (∀ c ∈ cs, c.IsDocumented) →
      ∀ part ∈ cs.map FilterPart.clause, part.IsWhole := by
    intro cs hcs part hpart
    obtain ⟨c, hc, rfl⟩ := List.mem_map.mp hpart
    exact (hcs c hc).isWhole
  obtain ⟨text?, htext, hfind⟩ := compile_filterText hfields (hparts ▸ hwhole hc)
  obtain ⟨text?', htext', hfind'⟩ := compile_filterText hfields' (hparts' ▸ hwhole hd)
  obtain rfl : text? = text?' := by
    rw [hfind, hfind'] at hfilter
    exact Option.map_injective (fun _ _ => Value.text.inj) hfilter
  rcases filterText_clauses hparts htext with ⟨rfl, rfl⟩ | ⟨ss, hss, rfl⟩ <;>
    rcases filterText_clauses hparts' htext' with ⟨rfl, h⟩ | ⟨ts, hts, h⟩
  · exact .nil
  · cases h
  · cases h
  · have hspace : ∀ m, BeginsMarked (conjunction.toList ++ m) := fun m =>
      beginsMarked_cons (c := ' ') rfl _
    refine (delimited_clause.intercalate_append_inj hspace closes_filter closes_filter hc hd hss
      hts ?_).1
    rw [Option.some.inj h]

/-- The whole number five and the binary64 number five are written alike, and a text that holds what
joins clauses is one operand. -/
theorem filter_unambiguous_five : List.Forall₂ Clause.Agrees
    [⟨.text "title", .equals, .text "x and y eq 5"⟩, ⟨.text "size", .isIn, .list [.int 5]⟩]
    [⟨.text "title", .equals, .text "x and y eq 5"⟩, ⟨.text "size", .isIn,
      .list [.float (.finite false ⟨1025 * Binary64.blockSize + 2 ^ 50, by decide⟩)]⟩] := by
  have htitle : (Clause.mk (.text "title") .equals (.text "x and y eq 5")).IsDocumented :=
    ⟨⟨"title", rfl, isWord_of_all (l := ['t', 'i', 't', 'l', 'e']) rfl⟩,
      .inl (by simp [Value.IsQuotable])⟩
  have hsize : ∀ v : Value, v.IsUnquoted →
      (Clause.mk (.text "size") .isIn (.list [v])).IsDocumented := fun v hv =>
    ⟨⟨"size", rfl, isWord_of_all (l := ['s', 'i', 'z', 'e']) rfl⟩,
      List.forall_mem_singleton.mpr (.inr hv)⟩
  exact @filter_unambiguous
    [.filter (.clause ⟨.text "title", .equals, .text "x and y eq 5"⟩), .skip (.int 2),
      .filter (.clause ⟨.text "size", .isIn, .list [.int 5]⟩)]
    [.filter (.clause ⟨.text "title", .equals, .text "x and y eq 5"⟩),
      .filter (.clause ⟨.text "size", .isIn,
        .list [.float (.finite false ⟨1025 * Binary64.blockSize + 2 ^ 50, by decide⟩)]⟩)]
    _ _ rfl rfl
    (List.forall_mem_cons.mpr ⟨htitle, List.forall_mem_singleton.mpr (hsize (.int 5) trivial)⟩)
    (List.forall_mem_cons.mpr ⟨htitle, List.forall_mem_singleton.mpr (hsize (.float _) trivial)⟩)
    _ _ rfl rfl (by rfl)

end Query

end ContentGateway
