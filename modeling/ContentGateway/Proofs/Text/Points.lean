import Mathlib
import ContentGateway.Value

/-!
# Points of texts

A string has no halves among its points, and shown it is itself. So the text of points without
halves is a string, and the text of the points of a broken text is that text again.
-/

namespace ContentGateway

namespace Text

variable (cs ds : List Char) (ps qs : List Point)

@[simp] theorem points_append : points (cs ++ ds) = points cs ++ points ds := List.map_append

/-- The points of joined strings are their points joined. -/
theorem points_intercalate (separator : String) (texts : List String) :
    points (separator.intercalate texts).toList =
      (points separator.toList).intercalate (texts.map fun s => points s.toList) := by
  induction texts with
  | nil => rw [String.intercalate_nil, List.map_nil, List.intercalate_nil]; rfl
  | cons s texts ih =>
    cases texts with
    | nil => rw [String.intercalate_singleton, List.map_singleton, List.intercalate_singleton]
    | cons next texts =>
      rw [List.map_cons] at ih
      rw [String.intercalate_cons_cons, List.map_cons, List.map_cons, List.intercalate_cons_cons,
        ← ih, String.toList_append, String.toList_append, points_append, points_append]

/-- The points of a string are shown as its characters. -/
theorem shown_points : (points cs).map Point.shown = cs := by
  rw [points, List.map_map]
  exact List.map_id cs

@[simp] theorem mended_points : mended (points cs) = String.ofList cs := by
  rw [mended, shown_points]

/-- Points behind others are shown behind them. -/
theorem mended_append : mended (ps ++ qs) = mended ps ++ mended qs := by
  rw [mended, List.map_append, String.ofList_append]
  rfl

/-- A character other than the one that stands for halves is shown only for itself. -/
theorem mem_mended {ps : List Point} {c : Char} (hc : c ≠ '\ufffd') :
    c ∈ (mended ps).toList ↔ .char c ∈ ps := by
  rw [mended, String.toList_ofList, List.mem_map]
  constructor
  · rintro ⟨p, hp, hshown⟩
    cases p with
    | char d => exact Eq.subst (motive := fun d => Point.char d ∈ ps) hshown hp
    | half n => exact absurd hshown.symm hc
  · intro h
    exact ⟨_, h, rfl⟩

/-- There is no half among the points of a string. -/
theorem any_isHalf_points : (points cs).any Point.isHalf = false := by
  rw [List.any_eq_false]
  intro p hp
  obtain ⟨c, -, rfl⟩ := List.mem_map.mp hp
  exact Bool.false_ne_true

/-- The points of a string are those of no broken text. -/
theorem isBroken_points : isBroken (points cs) = false := by
  rw [isBroken, any_isHalf_points, Bool.false_and]

/-- No two characters are the halves of a pair. -/
theorem hasPair_points : hasPair (points cs) = false := by
  induction cs with
  | nil => rfl
  | cons c cs ih =>
    cases cs with
    | nil => rfl
    | cons d cs => exact ih

/-- A broken text has a half in it. -/
theorem Broken.any_isHalf (t : Broken) : t.points.any Point.isHalf := by
  have hbroken := t.unpaired
  rw [isBroken, Bool.and_eq_true] at hbroken
  exact hbroken.1

/-- No two halves in it make up a pair. -/
theorem Broken.hasPair_eq_false (t : Broken) : hasPair t.points = false := by
  have hbroken := t.unpaired
  rw [isBroken, Bool.and_eq_true, Bool.not_eq_true'] at hbroken
  exact hbroken.2

theorem Broken.points_ne_nil (t : Broken) : t.points ≠ [] := by
  intro hnil
  have hhalf := t.any_isHalf
  rw [hnil] at hhalf
  cases hhalf

/-- The points of a broken text are those of no string. -/
theorem Broken.ne_points (t : Broken) (cs : List Char) : t.points ≠ Text.points cs := by
  intro h
  have hhalf := t.any_isHalf
  rw [h, any_isHalf_points] at hhalf
  cases hhalf

end Text

namespace Value

/-- The text of the points of a string is the string. -/
@[simp] theorem ofPoints_points (cs : List Char) :
    ofPoints (Text.points cs) = .text (String.ofList cs) := by
  rw [ofPoints, dif_neg (by simp [Text.isBroken_points]), Text.mended_points]

/-- The text of the points of a broken text is that text. -/
theorem ofPoints_broken (t : Text.Broken) : ofPoints t.points = .unpaired t := by
  rw [ofPoints, dif_pos t.unpaired]

/-- The text of points is a string or a broken text. -/
theorem ofPoints_cases (ps : List Text.Point) :
    (∃ t : Text.Broken, t.points = ps ∧ ofPoints ps = .unpaired t) ∨
      ofPoints ps = .text (Text.mended ps) := by
  rw [ofPoints]
  split
  · next h => exact .inl ⟨⟨ps, h⟩, rfl, rfl⟩
  · exact .inr rfl

end Value

end ContentGateway
