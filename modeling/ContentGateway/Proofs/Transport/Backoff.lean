import Mathlib
import ContentGateway.Proofs.Decimal.Doubling
import ContentGateway.Retry

/-!
# Backoff delays

The delay before retry `n + 1` is the base delay doubled `n` times. A whole number is doubled
exactly at any size, but it has to be rounded to be shown; a binary64 number is multiplied by a
rounded power of two. Both fail from some retry on, and `Number.Outgrows` says from which.
-/

namespace ContentGateway

namespace Number

def toRat? : Number → Option ℚ
  | .int i => some i
  | .float x => x.toRat?

def doubled (n : ℕ) : Number → Number
  | .int i => .int (i * 2 ^ n)
  | .float x => .float (x.doubled n)

def nearest : Number → Binary64
  | .int i => Binary64.ofRatio (decide (i < 0)) i.natAbs 1
  | .float x => x

/-- Whether a number that is doubled so many times is too large for a delay. -/
def Outgrows (b : Number) (n : ℕ) : Prop :=
  match b with
  | .int i => Binary64.overflow ≤ (i * 2 ^ n).natAbs
  | .float _ => 1024 ≤ n

@[simp] theorem number_toValue (n : Number) : n.toValue.number = .ok n := by
  cases n <;> rfl

/-- A whole number can be rounded exactly while it is below the end of the finite range. -/
theorem toBinary64_int (i : ℤ) :
    (Number.int i).toBinary64 =
      if i.natAbs < Binary64.overflow then .ok (Number.int i).nearest
      else .error (.misuse .tooLarge) := by
  have hiff := Binary64.ofRatio_eq_infinite_iff (decide (i < 0)) i.natAbs one_pos
  rw [mul_one] at hiff
  simp only [toBinary64, Binary64.ofInt?, nearest]
  generalize hround : Binary64.ofRatio (decide (i < 0)) i.natAbs 1 = x at *
  cases x with
  | infinite negative =>
    have hsign : negative = decide (i < 0) := by
      rw [Binary64.ofRatio_eq _ _ one_pos, Binary64.ofRank] at hround
      split at hround <;> simp_all
    rw [if_neg (not_lt.mpr (hiff.mp (hsign ▸ rfl)))]
  | nan =>
    rw [if_pos (not_le.mp fun h => by simpa using hiff.mpr h)]
  | finite negative rank =>
    rw [if_pos (not_le.mp fun h => by simpa using hiff.mpr h)]

/-- A power of two is rounded to itself while it is in range. -/
theorem nearest_two_pow {n : ℕ} (h : n < 1024) :
    (Number.int ((2 ^ n : ℕ) : ℤ)).nearest = Binary64.twoPower n h := by
  have hsign : decide (((2 ^ n : ℕ) : ℤ) < 0) = false :=
    decide_eq_false (not_lt.mpr (Int.natCast_nonneg _))
  have hunits : 2 ^ n * Binary64.unitsOfOne = Binary64.units (Binary64.powerRank n) * 1 := by
    rw [Binary64.units_powerRank, mul_one]
  rw [nearest, hsign, Int.natAbs_natCast, Binary64.ofRatio_of_units false one_pos hunits,
    Binary64.ofRank_of_lt false (Binary64.powerRank_lt h), Binary64.twoPower]

/-- A power of two is within the range exactly if it is below the 1024th. -/
theorem two_pow_lt_overflow_iff (n : ℕ) : 2 ^ n < Binary64.overflow ↔ n < 1024 := by
  have hgap : ∀ a b : ℕ, a ≤ b → 2 ^ b - 2 ^ a + 2 ^ a = 2 ^ b := fun a b h =>
    Nat.sub_add_cancel (Nat.pow_le_pow_right (by norm_num) h)
  have htop := hgap 970 1024 (by norm_num)
  have hhalf : ∀ a b : ℕ, a < b → 2 ^ a < 2 ^ b ∧ 2 ^ (b + 1) = 2 ^ b + 2 ^ b := fun a b h =>
    ⟨Nat.pow_lt_pow_right (by norm_num) h, by ring⟩
  obtain ⟨hlt, hdouble⟩ := hhalf 970 1023 (by norm_num)
  have hmono : ∀ a b : ℕ, a ≤ b → 2 ^ a ≤ 2 ^ b := fun a b h =>
    Nat.pow_le_pow_right (by norm_num) h
  rw [← Binary64.overflow_eq] at htop
  constructor
  · intro h
    by_contra hn
    have := hmono 1024 n (not_lt.mp hn)
    omega
  · intro h
    have := hmono n 1023 (by omega)
    omega

/-! ## Doubling as multiplication -/

/-- Two to the power of a natural number is exact. -/
theorem twoPow_natCast (n : ℕ) : (Number.int n).twoPow = .ok (.int (2 ^ n : ℕ)) := by
  show (Except.ok (Number.int (Nat.pow 2 n : ℕ)) : Except Fault Number) = _
  rw [Nat.pow_eq]

/-- A whole base delay is doubled without limit. -/
theorem times_int (i : ℤ) (n : ℕ) :
    (Number.int i).times (.int (2 ^ n : ℕ)) = .ok ((Number.int i).doubled n) := by
  rw [times, doubled, Nat.cast_pow, Nat.cast_ofNat]

/-- A fractional base delay is doubled as long as the factor is in range. -/
theorem times_float (x : Binary64) (n : ℕ) :
    (Number.float x).times (.int (2 ^ n : ℕ)) =
      if n < 1024 then .ok ((Number.float x).doubled n) else .error (.misuse .tooLarge) := by
  have hpower := toBinary64_int ((2 ^ n : ℕ) : ℤ)
  rw [Int.natAbs_natCast] at hpower
  by_cases h : n < 1024
  · rw [if_pos ((two_pow_lt_overflow_iff n).mpr h), nearest_two_pow h] at hpower
    have hleft : (Number.float x).toBinary64 = .ok x := rfl
    simp only [times, hleft, hpower, bind, Except.bind, pure, Except.pure, if_pos h, doubled,
      Binary64.mul_twoPower]
  · rw [if_neg (mt (two_pow_lt_overflow_iff n).mp h)] at hpower
    have hleft : (Number.float x).toBinary64 = .ok x := rfl
    simp only [times, hleft, hpower, bind, Except.bind, if_neg h]

/-- Doubling is exact as long as the outcome is in range; a whole number is always doubled
exactly. -/
theorem toRat?_doubled {b : Number} {q : ℚ} (hb : b.toRat? = some q) {n : ℕ}
    (hrange : |q * 2 ^ n| < 2 ^ 1024) : (b.doubled n).toRat? = some (q * 2 ^ n) := by
  cases b with
  | int i =>
    obtain rfl : (i : ℚ) = q := Option.some.inj hb
    simp [toRat?, doubled]
  | float x => exact Binary64.toRat?_doubled hb hrange

/-- A base in the finite range has not outgrown it. -/
theorem not_outgrows_of_lt {b : Number} {q : ℚ} (hb : b.toRat? = some q) {n : ℕ} (hn : n < 1024)
    (hrange : |q * 2 ^ n| < Binary64.overflow) : ¬ b.Outgrows n := by
  cases b with
  | int i =>
    obtain rfl : (i : ℚ) = q := Option.some.inj hb
    simp only [Outgrows, not_le]
    have hcast : |(i : ℚ) * 2 ^ n| = ((i * 2 ^ n).natAbs : ℚ) := by
      rw [Nat.cast_natAbs]
      push_cast
      rfl
    rw [hcast] at hrange
    exact_mod_cast hrange
  | float x => exact not_le.mpr hn

end Number

/-! ## The delays of a policy -/

section Delays

variable (b : Number) (n : ℕ)

theorem number_succ_plus : (Number.int ((n : ℤ) + 1)).plus (-1) = .ok (.int n) := by
  simp only [Number.plus]
  congr 2
  omega

/-- A base delay that is doubled as a number is doubled as a value. -/
theorem times_toValue (m : ℕ) (hb : (b.times (.int m)) = .ok (b.doubled n)) :
    b.toValue.times (.int m) = .ok (b.doubled n).toValue := by
  cases b <;>
    simp only [Number.toValue, Value.times, Value.number, Value.number?, bind, Except.bind, hb,
      pure, Except.pure]

/-- The delay before retry `n + 1` is the base doubled `n` times. -/
theorem retryDelay_eq (hb : ¬ b.Outgrows n) :
    retryDelay (.int (n + 1)) b.toValue = .ok (b.doubled n).toValue := by
  have htimes : b.times (.int (2 ^ n : ℕ)) = .ok (b.doubled n) := by
    cases b with
    | int i => exact Number.times_int i n
    | float x => rw [Number.times_float, if_pos (not_le.mp hb)]
  have hstep : (Value.int (n + 1)).number = .ok (.int (n + 1)) := rfl
  simp only [retryDelay, hstep, number_succ_plus, Number.twoPow_natCast, bind, Except.bind]
  exact times_toValue b n _ htimes

/-- A delay that has not outgrown the range can be shown. -/
theorem twoPlaces_doubled (hb : ¬ b.Outgrows n) :
    (b.doubled n).toValue.twoPlaces = .ok ((b.doubled n).nearest.fixed 2) := by
  have hround : (b.doubled n).toBinary64 = .ok (b.doubled n).nearest := by
    cases b with
    | int i => rw [Number.doubled, Number.toBinary64_int, if_pos (not_le.mp hb)]
    | float x => rfl
  simp only [Value.twoPlaces, Number.number_toValue, hround, bind, Except.bind, pure, Except.pure]

/-- A base that has outgrown the range gives no delay, or one that cannot be shown. -/
theorem no_retry_of_outgrows (hb : b.Outgrows n) :
    retryDelay (.int (n + 1)) b.toValue = .error (.misuse .tooLarge) ∨
      ∃ delay, retryDelay (.int (n + 1)) b.toValue = .ok delay ∧
        delay.twoPlaces = .error (.misuse .tooLarge) := by
  cases b with
  | int i =>
    have hstep : (Value.int (n + 1)).number = .ok (.int (n + 1)) := rfl
    refine .inr ⟨.int (i * 2 ^ n), ?_, ?_⟩
    · simp only [retryDelay, hstep, number_succ_plus, Number.twoPow_natCast, bind, Except.bind]
      exact times_toValue (.int i) n _ (Number.times_int i n)
    · have hround := Number.toBinary64_int (i * 2 ^ n)
      rw [if_neg (not_lt.mpr hb)] at hround
      have hnumber : (Value.int (i * 2 ^ n)).number = .ok (.int (i * 2 ^ n)) := rfl
      simp only [Value.twoPlaces, hnumber, hround, bind, Except.bind]
  | float x =>
    left
    have htimes := Number.times_float x n
    rw [if_neg (not_lt.mpr hb)] at htimes
    simp only [retryDelay, number_succ_plus, Number.twoPow_natCast, bind, Except.bind,
      Number.toValue, Value.times, Value.number, Value.number?, htimes]

end Delays

end ContentGateway
