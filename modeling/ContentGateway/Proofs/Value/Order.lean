import Mathlib
import ContentGateway.Proofs.Value.Display
import ContentGateway.Value.Order

/-!
# Comparing values

On whole numbers the comparisons of values are those of the numbers. Values that have no order among
them do not fit, and nothing else goes wrong in a comparison.
-/

namespace ContentGateway.Value

variable (a b : ℤ)

@[simp] theorem order_int : (Value.int a).order (.int b) = .ok (some (compare a b)) := by
  rw [order.eq_def]
  rfl

/-- Three-way comparison of whole numbers, said by their order. -/
theorem compare_cases :
    (a < b ∧ compare a b = .lt) ∨ (a = b ∧ compare a b = .eq) ∨ (b < a ∧ compare a b = .gt) := by
  rcases lt_trichotomy a b with h | h | h
  · exact .inl ⟨h, compare_lt_iff_lt.mpr h⟩
  · exact .inr (.inl ⟨h, compare_eq_iff_eq.mpr h⟩)
  · exact .inr (.inr ⟨h, compare_gt_iff_gt.mpr h⟩)

@[simp] theorem isInt_int : (Value.int a).isInt b = decide (a = b) := by
  show (some (compare a b) == some Ordering.eq) = _
  rcases compare_cases a b with ⟨h, hc⟩ | ⟨h, hc⟩ | ⟨h, hc⟩ <;> rw [hc]
  · exact (decide_eq_false (by omega)).symm
  · exact (decide_eq_true h).symm
  · exact (decide_eq_false (by omega)).symm

@[simp] theorem atMost_int : (Value.int a).atMost (.int b) = .ok (decide (a ≤ b)) := by
  rw [atMost, order_int]
  rcases compare_cases a b with ⟨h, hc⟩ | ⟨h, hc⟩ | ⟨h, hc⟩ <;> rw [hc]
  · rw [decide_eq_true (show a ≤ b by omega)]
    rfl
  · rw [decide_eq_true (show a ≤ b by omega)]
    rfl
  · rw [decide_eq_false (show ¬ a ≤ b by omega)]
    rfl

@[simp] theorem atLeast_int : (Value.int a).atLeast (.int b) = .ok (decide (b ≤ a)) := by
  rw [atLeast, order_int]
  rcases compare_cases a b with ⟨h, hc⟩ | ⟨h, hc⟩ | ⟨h, hc⟩ <;> rw [hc]
  · rw [decide_eq_false (show ¬ b ≤ a by omega)]
    rfl
  · rw [decide_eq_true (show b ≤ a by omega)]
    rfl
  · rw [decide_eq_true (show b ≤ a by omega)]
    rfl

/-! ## Values without an order -/

mutual

/-- Comparing two values fails with misfits only. -/
theorem order_misfit (v w : Value) : OnlyMisfits (v.order w) := by
  rw [order.eq_def]
  split
  · exact onlyMisfits_ok _
  · exact onlyMisfits_ok _
  · exact onlyMisfits_ok _
  · exact onlyMisfits_ok _
  · exact onlyMisfits_ok _
  · next vs ws => exact orderItems_misfit vs ws
  · split
    · exact onlyMisfits_ok _
    · exact onlyMisfits_error trivial

theorem orderItems_misfit : (vs ws : List Value) → OnlyMisfits (orderItems vs ws)
  | [], [] | [], _ :: _ | _ :: _, [] => by
    rw [orderItems]
    exact onlyMisfits_ok _
  | v :: vs, w :: ws => by
    rw [orderItems]
    split
    · exact orderItems_misfit vs ws
    · exact order_misfit v w

end

theorem atLeast_misfit (v w : Value) : OnlyMisfits (v.atLeast w) := by
  refine .bind (order_misfit v w) fun o => ?_
  split <;> exact onlyMisfits_pure _

end ContentGateway.Value
