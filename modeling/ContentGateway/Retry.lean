import ContentGateway.Failure.Classify

/-!
# Retrying

A policy says how often a failed attempt is repeated, and how long to wait first: a base delay that
doubles from one retry to the next. Budget and base are values that were set from outside, so a
policy fails where they are not numbers. A whole base is doubled without limit; a fractional one
fails where the factor is beyond the finite range.
-/

namespace ContentGateway

/-- The delay before a retry, counted from one: `base · 2 ^ (attempt - 1)`. -/
def retryDelay (attempt base : Value) : Except Fault Value := do
  let doublings ← (← attempt.number).plus (-1)
  base.times (← doublings.twoPow)

/-- How often a failed attempt is repeated, and the delay before the first retry. -/
structure RetryPolicy where
  retries : Value
  baseDelay : Value

namespace RetryPolicy

/-- Three retries, the first after one second. -/
def standard : RetryPolicy := ⟨.int 3, .float (.ofDecimal false 1 0)⟩

/-- The delay before a retry by a policy. -/
def delay (policy : RetryPolicy) (attempt : Value) : Except Fault Value :=
  retryDelay attempt policy.baseDelay

/-- Whether a retry is made after a fault: the budget is not used up and the fault may pass. -/
def allows (policy : RetryPolicy) (attempt : Value) (f : Fault) : Except Fault Bool := do
  if ← attempt.atMost policy.retries then Failure.isRetryable f else return false

end RetryPolicy

end ContentGateway
