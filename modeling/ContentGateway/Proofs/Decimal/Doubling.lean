import Mathlib
import ContentGateway.Proofs.Decimal.Rounding

/-!
# Doubling binary64 numbers

The double of a finite number is a finite number again until the range ends, so a product with a
power of two is exact. On ranks, doubling is `doubleRank`: a rank below the first full block is
doubled itself, any other moves up by one block.
-/

namespace ContentGateway.Binary64

def toRat? : Binary64 → Option ℚ
  | .finite negative rank =>
    some (if negative then -(numerator rank / denominator rank)
      else numerator rank / denominator rank)
  | _ => none

/-- Numerator and denominator of a rank say the same as its units. -/
theorem numerator_mul_unitsOfOne (rank : ℕ) :
    numerator rank * unitsOfOne = units rank * denominator rank := by
  have hexp : (exponent rank).toNat + 1074 = rank / blockSize - 1 + (-exponent rank).toNat := by
    unfold exponent
    split
    · rename_i h
      rw [Nat.div_eq_of_lt h]
      omega
    · rename_i h
      have := Nat.div_pos (not_lt.mp h) (blockSize_eq ▸ Nat.two_pow_pos 52)
      omega
  simp only [numerator, denominator, units, unitsOfOne_eq, Nat.pow_eq]
  rw [mul_assoc, mul_assoc, ← pow_add, ← pow_add, hexp]

/-- No rank has zero for its denominator. -/
theorem denominator_pos (rank : ℕ) : 0 < denominator rank := by
  rw [denominator, Nat.pow_eq]
  positivity

/-- The fraction of a rank is its magnitude in units. -/
theorem numerator_div_denominator (rank : ℕ) :
    (numerator rank / denominator rank : ℚ) = units rank / unitsOfOne := by
  have hden : (denominator rank : ℚ) ≠ 0 := by exact_mod_cast (denominator_pos rank).ne'
  have hone : (unitsOfOne : ℚ) ≠ 0 := by exact_mod_cast unitsOfOne_pos.ne'
  rw [div_eq_div_iff hden hone]
  exact_mod_cast numerator_mul_unitsOfOne rank

/-! ## Ranks of doubles -/

/-- The rank of the double of a rank's number. -/
def doubleRank (rank : ℕ) : ℕ := if rank < 2 ^ 52 then 2 * rank else rank + 2 ^ 52

/-- The rank of the double has twice the magnitude. -/
theorem units_doubleRank (rank : ℕ) : units (doubleRank rank) = 2 * units rank := by
  unfold doubleRank
  split
  · rename_i h
    rw [units_of_lt h]
    by_cases hdouble : 2 * rank < 2 ^ 52
    · rw [units_of_lt hdouble]
    · have hdiv : 2 * rank / 2 ^ 52 = 1 := by omega
      have hmod : 2 * rank % 2 ^ 52 = 2 * rank - 2 ^ 52 := by omega
      rw [units_of_le (not_lt.mp hdouble), hdiv, hmod, Nat.sub_self, pow_zero, mul_one]
      omega
  · rename_i h
    have hdiv : (rank + 2 ^ 52) / 2 ^ 52 = rank / 2 ^ 52 - 1 + 1 + 1 := by omega
    have hmod : (rank + 2 ^ 52) % 2 ^ 52 = rank % 2 ^ 52 := by omega
    rw [units_of_le (not_lt.mp h), units_of_le (by omega), hdiv, hmod, Nat.add_sub_cancel]
    ring

/-- Ranks that are doubled again and again have magnitudes that are. -/
theorem units_iterate_doubleRank (i rank : ℕ) :
    units (doubleRank^[i] rank) = 2 ^ i * units rank := by
  induction i with
  | zero => rw [Function.iterate_zero_apply, pow_zero, one_mul]
  | succ i ih => rw [Function.iterate_succ_apply', units_doubleRank, ih, pow_succ]; ring

/-- Whatever is smaller than `2 ^ 1024` has a rank of a finite number. -/
theorem lt_rankLimit_of_units {rank : ℕ} (h : units rank < 2 ^ 1024 * unitsOfOne) :
    rank < rankLimit := by
  rw [rankLimit_eq]
  by_contra hlimit
  have hblock : 2047 ≤ rank / 2 ^ 52 := by omega
  have hpow : ∀ a b c : ℕ, a + b ≤ c → 2 ^ a * 2 ^ b ≤ 2 ^ c := by
    intro a b c habc
    rw [← pow_add]
    exact Nat.pow_le_pow_right (by norm_num) habc
  have hunits : 2 ^ 52 * 2 ^ (rank / 2 ^ 52 - 1) ≤ units rank := by
    rw [units_of_le (by omega)]
    exact Nat.mul_le_mul_right _ (Nat.le_add_right _ _)
  rw [← pow_add] at hunits
  have := hpow 1024 1074 (52 + (rank / 2 ^ 52 - 1)) (by omega)
  rw [unitsOfOne_eq] at h
  exact absurd (lt_of_le_of_lt (this.trans hunits) h) (lt_irrefl _)

/-! ## Products -/

/-- A product whose exact value is the magnitude of a rank is not rounded away from it. -/
theorem mul_of_units (s t : Bool) (a b : Fin rankLimit) (rank : ℕ)
    (h : units rank * unitsOfOne = units a * units b) :
    mul (.finite s a) (.finite t b) = ofRank (s != t) rank := by
  unfold mul ofDyadic
  apply ofRatio_of_units
  · rw [Nat.pow_eq]
    positivity
  · have ha := numerator_mul_unitsOfOne a
    have hb := numerator_mul_unitsOfOne b
    simp only [numerator, denominator, Nat.pow_eq] at ha hb ⊢
    generalize significand (a : ℕ) = m at *
    generalize significand (b : ℕ) = n at *
    generalize exponent (a : ℕ) = e at *
    generalize exponent (b : ℕ) = f at *
    -- both sides of the goal, scaled by the denominators of the factors and by one more unit
    have hexp : (e + f).toNat + (-e).toNat + (-f).toNat = (-(e + f)).toNat + e.toNat + f.toNat := by
      omega
    have hpow : 2 ^ (e + f).toNat * 2 ^ (-e).toNat * 2 ^ (-f).toNat =
        2 ^ (-(e + f)).toNat * 2 ^ e.toNat * 2 ^ f.toNat := by
      rw [← pow_add, ← pow_add, ← pow_add, ← pow_add, hexp]
    have hscale : 0 < 2 ^ (-e).toNat * 2 ^ (-f).toNat * unitsOfOne :=
      Nat.mul_pos (by positivity) unitsOfOne_pos
    refine Nat.eq_of_mul_eq_mul_right hscale ?_
    calc m * n * 2 ^ (e + f).toNat * unitsOfOne * (2 ^ (-e).toNat * 2 ^ (-f).toNat * unitsOfOne)
        = m * n * (2 ^ (e + f).toNat * 2 ^ (-e).toNat * 2 ^ (-f).toNat) * unitsOfOne
            * unitsOfOne := by ring
      _ = m * 2 ^ e.toNat * unitsOfOne * (n * 2 ^ f.toNat * unitsOfOne) *
            2 ^ (-(e + f)).toNat := by rw [hpow]; ring
      _ = units a * units b * 2 ^ (-e).toNat * 2 ^ (-f).toNat * 2 ^ (-(e + f)).toNat := by
          rw [ha, hb]; ring
      _ = units rank * 2 ^ (-(e + f)).toNat * (2 ^ (-e).toNat * 2 ^ (-f).toNat * unitsOfOne) := by
          rw [← h]; ring

def powerRank (i : ℕ) : ℕ := (1023 + i) * 2 ^ 52

/-- The rank of a power of two has that magnitude. -/
theorem units_powerRank (i : ℕ) : units (powerRank i) = 2 ^ i * unitsOfOne := by
  have hdiv : (1023 + i) * 2 ^ 52 / 2 ^ 52 = 1023 + i := Nat.mul_div_cancel _ (by norm_num)
  have hmod : (1023 + i) * 2 ^ 52 % 2 ^ 52 = 0 := Nat.mul_mod_left _ _
  have hexp : 52 + (1023 + i - 1) = i + 1074 := by omega
  rw [powerRank, units_of_le (by omega), hdiv, hmod, Nat.add_zero, ← pow_add, hexp, unitsOfOne_eq,
    pow_add]

/-- Powers of two below the 1024th are finite. -/
theorem powerRank_lt {i : ℕ} (h : i < 1024) : powerRank i < rankLimit := by
  rw [powerRank, rankLimit_eq]
  omega

def twoPower (i : ℕ) (h : i < 1024) : Binary64 := .finite false ⟨powerRank i, powerRank_lt h⟩

/-- A number doubled so many times; beyond the range it is infinite. -/
def doubled (i : ℕ) : Binary64 → Binary64
  | .nan => .nan
  | .infinite negative => .infinite negative
  | .finite negative rank => ofRank negative (doubleRank^[i] rank)

/-- Multiplying by a power of two only doubles, for numbers of every kind. -/
theorem mul_twoPower (x : Binary64) {i : ℕ} (h : i < 1024) :
    x.mul (twoPower i h) = x.doubled i := by
  cases x with
  | nan => rfl
  | infinite negative =>
    have hpos : powerRank i ≠ 0 := by
      rw [powerRank]
      omega
    simp [twoPower, mul, doubled, hpos]
  | finite negative rank =>
    rw [twoPower, doubled, mul_of_units negative false rank _ (doubleRank^[i] rank)]
    · rw [Bool.bne_false]
    · rw [units_iterate_doubleRank, units_powerRank]
      ring

/-- Doubling is exact while the outcome is in range. -/
theorem toRat?_doubled {x : Binary64} {q : ℚ} (hx : x.toRat? = some q) {i : ℕ}
    (hrange : |q * 2 ^ i| < 2 ^ 1024) : (x.doubled i).toRat? = some (q * 2 ^ i) := by
  cases x with
  | nan => simp [toRat?] at hx
  | infinite negative => simp [toRat?] at hx
  | finite negative rank =>
    have hone : (0 : ℚ) < unitsOfOne := by exact_mod_cast unitsOfOne_pos
    have hsign : |q| = units rank / unitsOfOne := by
      have hmag : (0 : ℚ) ≤ units rank / unitsOfOne := div_nonneg (Nat.cast_nonneg _) hone.le
      simp only [toRat?, numerator_div_denominator, Option.some.injEq] at hx
      rw [← hx]
      split
      · rw [abs_neg, abs_of_nonneg hmag]
      · rw [abs_of_nonneg hmag]
    have hlt : doubleRank^[i] rank < rankLimit := by
      apply lt_rankLimit_of_units
      rw [abs_mul, hsign, abs_of_nonneg (by positivity), div_mul_eq_mul_div, div_lt_iff₀ hone]
        at hrange
      rw [units_iterate_doubleRank, mul_comm]
      exact_mod_cast hrange
    rw [doubled, ofRank_of_lt negative hlt]
    simp only [toRat?, numerator_div_denominator, Option.some.injEq] at hx ⊢
    rw [units_iterate_doubleRank, ← hx]
    push_cast
    split <;> ring

end ContentGateway.Binary64
