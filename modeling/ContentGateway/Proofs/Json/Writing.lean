import Mathlib
import ContentGateway.Json.Printer
import ContentGateway.Proofs.Value.Display

/-!
# What can go wrong in writing JSON

Writing fails only because some value does not fit: a whole number is too long for text, or raw
bytes or a fault have no form. So what it fails with is a misfit, and the layout has no part in it.
-/

namespace ContentGateway.Json

variable (layout : Layout) (strictness : Strictness)

theorem foreignForm_misfit (v : Value) : OnlyMisfits (foreignForm strictness v) := by
  cases strictness with
  | strict => exact onlyMisfits_error trivial
  | lenient => exact .bind v.display_misfit fun _ => onlyMisfits_pure _

mutual

/-- Writing a value fails with misfits only. -/
theorem valueForm_misfit (depth : ℕ) : (v : Value) →
    OnlyMisfits (valueForm layout strictness depth v)
  | .null | .bool _ | .float _ | .text _ | .unpaired _ => by
    rw [valueForm.eq_def]
    exact onlyMisfits_ok _
  | .int i => by
    rw [valueForm]
    exact .bind (onlyMisfits_wholeText i) fun _ => onlyMisfits_pure _
  | .list items => by
    rw [valueForm]
    exact .bind (itemForms_misfit (depth + 1) items) fun _ => onlyMisfits_pure _
  | .dict fields => by
    rw [valueForm]
    exact .bind (fieldForms_misfit (depth + 1) fields) fun _ => onlyMisfits_pure _
  | .bytes data => by
    rw [valueForm]
    exact foreignForm_misfit strictness _
  | .fault f => by
    rw [valueForm]
    exact foreignForm_misfit strictness _

theorem itemForms_misfit (depth : ℕ) : (vs : List Value) →
    OnlyMisfits (itemForms layout strictness depth vs)
  | [] => by
    rw [itemForms]
    exact onlyMisfits_ok _
  | v :: rest => by
    rw [itemForms]
    exact .bind (valueForm_misfit depth v) fun _ =>
      .bind (itemForms_misfit depth rest) fun _ => onlyMisfits_pure _

theorem fieldForms_misfit (depth : ℕ) : (fields : List (String × Value)) →
    OnlyMisfits (fieldForms layout strictness depth fields)
  | [] => by
    rw [fieldForms]
    exact onlyMisfits_ok _
  | (_, v) :: rest => by
    rw [fieldForms]
    exact .bind (valueForm_misfit depth v) fun _ =>
      .bind (fieldForms_misfit depth rest) fun _ => onlyMisfits_pure _

end

/-- What writing a value fails with is a misfit. -/
theorem write_misfit (v : Value) : OnlyMisfits (write layout strictness v) :=
  .bind (valueForm_misfit layout strictness 0 v) fun _ => onlyMisfits_pure _

/-! ## Layouts

The layout has no part in what goes wrong. One case per kind of value, following the recursion of
the writer, at any two depths. -/

variable (other : Layout)

mutual

/-- Whether a value can be written does not depend on its layout and depth. -/
theorem valueForm_failAlike (depth depth' : ℕ) : (v : Value) →
    FailAlike (valueForm layout strictness depth v) (valueForm other strictness depth' v)
  | .null | .bool _ | .int _ | .float _ | .text _ | .unpaired _ | .bytes _ | .fault _ => by
    rw [valueForm.eq_def, valueForm.eq_def]
    exact failAlike_rfl _
  | .list items => by
    rw [valueForm, valueForm]
    exact .bind (itemForms_failAlike (depth + 1) (depth' + 1) items) fun _ _ => failAlike_ok _ _
  | .dict fields => by
    rw [valueForm, valueForm]
    exact .bind (fieldForms_failAlike (depth + 1) (depth' + 1) fields) fun _ _ => failAlike_ok _ _

theorem itemForms_failAlike (depth depth' : ℕ) : (vs : List Value) →
    FailAlike (itemForms layout strictness depth vs) (itemForms other strictness depth' vs)
  | [] => by
    rw [itemForms, itemForms]
    exact failAlike_ok _ _
  | v :: rest => by
    rw [itemForms, itemForms]
    exact .bind (valueForm_failAlike depth depth' v) fun _ _ =>
      .bind (itemForms_failAlike depth depth' rest) fun _ _ => failAlike_ok _ _

theorem fieldForms_failAlike (depth depth' : ℕ) : (fields : List (String × Value)) →
    FailAlike (fieldForms layout strictness depth fields)
      (fieldForms other strictness depth' fields)
  | [] => by
    rw [fieldForms, fieldForms]
    exact failAlike_ok _ _
  | (_, v) :: rest => by
    rw [fieldForms, fieldForms]
    exact .bind (valueForm_failAlike depth depth' v) fun _ _ =>
      .bind (fieldForms_failAlike depth depth' rest) fun _ _ => failAlike_ok _ _

end

/-- Writing a value fails alike in any two layouts. -/
theorem write_failAlike (v : Value) :
    FailAlike (write layout strictness v) (write other strictness v) :=
  .bind (valueForm_failAlike layout strictness other 0 0 v) fun _ _ => failAlike_ok _ _

end ContentGateway.Json
