import Mathlib
import ContentGateway.Proofs.Steps
import ContentGateway.Proofs.Text.Points
import ContentGateway.Query

/-!
# Filters and their points

A filter is written in points, and shown as a text. Both are put together in the same way, so they
fail alike, and what is said of points and texts holds of a filter if it holds of strings and of the
broken texts in the filter, and is kept by joining. In this way the points of every filter are shown
as its text; and the points of a filter without broken texts are those of its text.
-/

namespace ContentGateway

/-- Whether what is said of points and texts holds of strings and is kept by joining. -/
structure IsSpelling (R : List Text.Point → String → Prop) : Prop where
  string : ∀ s, R (Text.points s.toList) s
  append : ∀ {ps qs s t}, R ps s → R qs t → R (ps ++ qs) (s ++ t)

/-- Points are shown as a text. -/
theorem isSpelling_mended : IsSpelling fun ps s => Text.mended ps = s where
  string s := by rw [Text.mended_points, String.ofList_toList]
  append := by
    rintro ps qs _ _ rfl rfl
    exact Text.mended_append ps qs

/-- Points are those of a text. -/
theorem isSpelling_points : IsSpelling fun ps s => ps = Text.points s.toList where
  string _ := rfl
  append := by
    rintro _ _ s t rfl rfl
    rw [String.toList_append, Text.points_append]

/-- Whether what is said of points and texts holds of a value, if that is a broken text. -/
def Value.SpeltBy (R : List Text.Point → String → Prop) (v : Value) : Prop :=
  ∀ t : Text.Broken, v = .unpaired t → R t.points t.mended

structure Clause.SpeltBy (R : List Text.Point → String → Prop) (c : Clause) : Prop where
  field : c.field.SpeltBy R
  operand : c.operand.SpeltBy R
  elements : c.operator = .isIn → ∀ vs, c.operand.elements = .ok vs → ∀ v ∈ vs, v.SpeltBy R

def FilterPart.SpeltBy (R : List Text.Point → String → Prop) : FilterPart → Prop
  | .clause c => c.SpeltBy R
  | .raw expression => expression.SpeltBy R

structure SortOrder.SpeltBy (R : List Text.Point → String → Prop) (o : SortOrder) : Prop where
  field : o.field.SpeltBy R
  direction : o.direction.SpeltBy R

/-- Of a value that is no broken text nothing has to hold. -/
theorem Value.speltBy_of_ne {R : List Text.Point → String → Prop} {v : Value}
    (h : ∀ t, v ≠ .unpaired t) : v.SpeltBy R := fun t ht => absurd ht (h t)

/-- Every value is shown as it is. -/
theorem Value.speltBy_mended (v : Value) : v.SpeltBy fun ps s => Text.mended ps = s :=
  fun _ _ => rfl

/-- What is shown of a member is said of it. -/
theorem FilterPart.speltBy_mended (part : FilterPart) :
    part.SpeltBy fun ps s => Text.mended ps = s := by
  cases part with
  | clause c => exact ⟨c.field.speltBy_mended, c.operand.speltBy_mended, fun _ _ _ v _ =>
      v.speltBy_mended⟩
  | raw expression => exact expression.speltBy_mended

theorem SortOrder.speltBy_mended (o : SortOrder) : o.SpeltBy fun ps s => Text.mended ps = s :=
  ⟨o.field.speltBy_mended, o.direction.speltBy_mended⟩

section Spelling

variable {R : List Text.Point → String → Prop} (hR : IsSpelling R)

include hR

/-- The points of a string are spelt by it. -/
theorem IsSpelling.map (step : Except Fault String) :
    Alike R ((Text.points ·.toList) <$> step) step := by
  cases step with
  | ok s => exact .ok (hR.string s)
  | error f => exact .error f

/-- Joined points are spelt by joined texts. -/
theorem IsSpelling.intercalate {pss : List (List Text.Point)} {texts : List String}
    (h : List.Forall₂ R pss texts) (separator : String) :
    R ((Text.points separator.toList).intercalate pss) (separator.intercalate texts) := by
  have hempty : R [] "" := hR.string ""
  induction h with
  | nil =>
    rw [List.intercalate_nil, String.intercalate_nil]
    exact hempty
  | @cons ps s pss texts hps hpss ih =>
    cases hpss with
    | nil =>
      rw [List.intercalate_singleton, String.intercalate_singleton]
      exact hps
    | cons _ _ =>
      rw [List.intercalate_cons_cons, String.intercalate_cons_cons]
      exact hR.append (hR.append hps (hR.string separator)) ih

/-! ## Values -/

/-- The points of a value as text and its text are alike. -/
theorem Value.displayPoints_alike {v : Value} (hv : v.SpeltBy R) :
    Alike R v.displayPoints v.display := by
  rw [displayPoints.eq_def]
  split
  · next t => exact .ok (hv t rfl)
  · exact hR.map _

/-- The points of an operand without quotes and its text are alike. -/
theorem Value.plainPoints_alike {v : Value} (hv : v.SpeltBy R) :
    Alike R v.plainPoints v.plain := by
  rw [plainPoints.eq_def]
  split
  · next t => exact .ok (hv t rfl)
  · exact hR.map _

/-- With quotes around a text they are alike too. -/
theorem Value.literalPoints_alike {v : Value} (hv : v.SpeltBy R) :
    Alike R v.literalPoints v.literal := by
  rw [literalPoints.eq_def]
  split
  · next t =>
    exact .ok (hR.append (hR.append (hR.string "'") (hv t rfl)) (hR.string "'"))
  · exact hR.map _

/-! ## Filters -/

/-- The points of a clause and its text are alike, whatever its operator is. -/
theorem Clause.points_alike {c : Clause} (hc : c.SpeltBy R) : Alike R c.points c.render := by
  obtain ⟨field, op, operand⟩ := c
  have hfield := Value.displayPoints_alike hR hc.field
  -- each operator puts the parts together in its own way, and `R` is kept by joining them
  unfold points render
  dsimp only
  cases op with
  | contains | startsWith | endsWith =>
    refine hfield.bind fun ps s hps => ?_
    refine (Value.displayPoints_alike hR hc.operand).bind fun qs t hqs => .ok ?_
    exact hR.append (hR.append (hR.append (hR.append (hR.append (hR.string _) (hR.string "("))
      hps) (hR.string ", '")) hqs) (hR.string "')")
  | isIn =>
    cases helements : operand.elements with
    | error f => exact .error f
    | ok vs =>
      have hvalues := Alike.mapM fun v hv =>
        Value.literalPoints_alike hR (hc.elements rfl vs helements v hv)
      refine hvalues.bind fun pss texts htexts => hfield.bind fun ps s hps => .ok ?_
      exact hR.append (hR.append (hR.append hps (hR.string " in ("))
        (hR.intercalate htexts ",")) (hR.string ")")
  | equals | notEquals =>
    refine hfield.bind fun ps s hps => ?_
    refine (Value.literalPoints_alike hR hc.operand).bind fun qs t hqs => .ok ?_
    exact hR.append (hR.append (hR.append (hR.append hps (hR.string " ")) (hR.string _))
      (hR.string " ")) hqs
  | _ =>
    refine hfield.bind fun ps s hps => ?_
    refine (Value.plainPoints_alike hR hc.operand).bind fun qs t hqs => .ok ?_
    exact hR.append (hR.append (hR.append (hR.append hps (hR.string " ")) (hR.string _))
      (hR.string " ")) hqs

/-- The points of a member and its text are alike. -/
theorem FilterPart.points_alike {part : FilterPart} (hpart : part.SpeltBy R) :
    Alike R part.points part.render := by
  cases part with
  | clause c => exact Clause.points_alike hR hpart
  | raw expression =>
    rw [points.eq_def]
    split
    · next heq => cases heq
    · next t heq => cases heq; exact .ok (hpart t rfl)
    · next heq => cases heq; exact hR.map _

/-- The points of a sort order and its text are alike. -/
theorem SortOrder.points_alike {o : SortOrder} (ho : o.SpeltBy R) : Alike R o.points o.render := by
  refine (Value.displayPoints_alike hR ho.field).bind fun ps s hps => ?_
  refine (Value.displayPoints_alike hR ho.direction).bind fun qs t hqs => .ok ?_
  exact hR.append (hR.append hps (hR.string " ")) hqs

/-- So are those of a sort order that may be missing. -/
theorem SortOrder.mapM_points_alike {order? : Option SortOrder}
    (h : ∀ order, order? = some order → order.SpeltBy R) :
    Alike (Option.Rel R) (order?.mapM SortOrder.points) (order?.mapM SortOrder.render) := by
  cases order? with
  | none => exact .ok .none
  | some order => exact (SortOrder.points_alike hR (h order rfl)).bind fun _ _ h => .ok (.some h)

/-- The points of a filter and its text are alike. -/
theorem Query.filterPoints_alike {q : Query} (hq : ∀ part ∈ q.parts, part.SpeltBy R) :
    Alike (Option.Rel R) q.filterPoints q.filterText := by
  rw [filterPoints, filterText]
  split
  · exact .ok .none
  · exact (Alike.mapM fun part hpart => FilterPart.points_alike hR (hq part hpart)).bind
      fun pss texts h => .ok (.some (hR.intercalate h conjunction))

end Spelling

end ContentGateway
