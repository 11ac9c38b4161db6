import Mathlib
import ContentGateway.Decimal.Shortest
import ContentGateway.Proofs.Decimal.Digits
import ContentGateway.Proofs.Decimal.Doubling

/-!
# Reading a decimal back

A decimal `m · 10 ^ e` reads as the nearest binary64 number, and only its value counts: zeros moved
from `m` to `e` change nothing, although the guards against huge powers look at the digits of `m`.
A decimal that has the exact magnitude of a rank reads as that rank, so every finite number has a
decimal that reads back as it, and so does the shortest one.
-/

namespace ContentGateway.Binary64

/-! ## Quotients -/

/-- Widening a quotient does not change what it rounds to. -/
theorem ofRatio_mul_right (negative : Bool) (num : ℕ) {den k : ℕ} (hden : 0 < den) (hk : 0 < k) :
    ofRatio negative (num * k) (den * k) = ofRatio negative num den := by
  have hplace : place (num * k) (den * k) = place num den := by
    refine place_eq (by positivity) ?_ ?_
    · have hhigh := Nat.mul_lt_mul_of_pos_right (num_lt_place num hden) hk
      calc num * k * unitsOfOne = num * unitsOfOne * k := by ring
        _ < den * 2 ^ (place num den + 53) * k := hhigh
        _ = den * k * 2 ^ (place num den + 53) := by ring
    · by_cases hzero : place num den = 0
      · exact .inl hzero
      · right
        have hlow := Nat.mul_le_mul_right k (place_le_num num hden hzero)
        calc den * k * 2 ^ (place num den + 52) = den * 2 ^ (place num den + 52) * k := by ring
          _ ≤ num * unitsOfOne * k := hlow
          _ = num * k * unitsOfOne := by ring
  have hnum : num * k * unitsOfOne = num * unitsOfOne * k := by ring
  have hgrid : den * k * 2 ^ place num den = den * 2 ^ place num den * k := by ring
  rw [ofRatio_eq negative (num * k) (by positivity), ofRatio_eq negative num hden, hplace, hnum,
    hgrid, roundDiv_mul_right _ _ hk]

/-! ## Decimals -/

/-- The quotient of a decimal. -/
theorem ofDecimal_eq (negative : Bool) {m : ℕ} (hm : m ≠ 0) (e : ℤ) :
    ofDecimal negative m e =
      if 310 < (Decimal.natDigits m).length + e then .infinite negative
      else if (Decimal.natDigits m).length + e < -330 then zero negative
      else ofRatio negative (m * 10 ^ e.toNat) (10 ^ (-e).toNat) := by
  unfold ofDecimal
  rw [if_neg hm]
  simp only [Nat.pow_eq]
  rfl

/-- Zero times any power of ten is zero. -/
theorem ofDecimal_zero (negative : Bool) (e : ℤ) : ofDecimal negative 0 e = zero negative :=
  if_pos rfl

/-- Zeros moved from the digits of a decimal into its exponent change nothing. -/
theorem ofDecimal_scale (negative : Bool) (m : ℕ) (e : ℤ) (k : ℕ) :
    ofDecimal negative (m * 10 ^ k) (e - k) = ofDecimal negative m e := by
  by_cases hm : m = 0
  · rw [hm, zero_mul, ofDecimal_zero, ofDecimal_zero]
  have hk : m * 10 ^ k ≠ 0 := Nat.mul_ne_zero hm (by positivity)
  have hwidth : ((Decimal.natDigits (m * 10 ^ k)).length : ℤ) + (e - k) =
      (Decimal.natDigits m).length + e := by
    rw [Decimal.length_natDigits_mul_pow hm]
    push_cast
    ring
  -- the two quotients differ by the zeros that the exponent cannot take back
  have hnum : m * 10 ^ k * 10 ^ (e - k).toNat = m * 10 ^ e.toNat * 10 ^ (k - e.toNat) := by
    rw [mul_assoc, mul_assoc, ← pow_add, ← pow_add,
      show k + (e - k).toNat = e.toNat + (k - e.toNat) by omega]
  have hden : 10 ^ (-(e - k)).toNat = 10 ^ (-e).toNat * 10 ^ (k - e.toNat) := by
    rw [← pow_add, show (-(e - k)).toNat = (-e).toNat + (k - e.toNat) by omega]
  rw [ofDecimal_eq negative hk, ofDecimal_eq negative hm, hwidth, hnum, hden,
    ofRatio_mul_right negative _ (by positivity) (by positivity)]

/-- The sign of what a decimal reads as is its own. -/
theorem ofDecimal_eq_finite {negative : Bool} {m : ℕ} {e : ℤ} {rank : Fin rankLimit}
    (h : ofDecimal false m e = .finite false rank) :
    ofDecimal negative m e = .finite negative rank := by
  have hratio : ∀ num den : ℕ, ofRatio false num den = .finite false rank →
      ofRatio negative num den = .finite negative rank := by
    intro num den h
    unfold ofRatio at h ⊢
    split at h
    · next hnum =>
      rw [if_pos hnum]
      cases h
      rfl
    · next hnum =>
      rw [if_neg hnum]
      dsimp only at h ⊢
      split at h
      · next hrank =>
        rw [dif_pos hrank]
        cases h
        rfl
      · cases h
  by_cases hm : m = 0
  · rw [hm, ofDecimal_zero] at h ⊢
    cases h
    rfl
  rw [ofDecimal_eq _ hm] at h ⊢
  split_ifs at h ⊢
  · cases h
    rfl
  · exact hratio _ _ h

/-- Every finite magnitude is below the end of the range. -/
theorem units_lt {rank : ℕ} (h : rank < rankLimit) : units rank < 2 ^ 1024 * unitsOfOne := by
  rw [rankLimit_eq] at h
  by_cases hsmall : rank < 2 ^ 52
  · rw [units_of_lt hsmall]
    refine lt_of_lt_of_le hsmall (le_trans ?_ (Nat.le_mul_of_pos_right _ unitsOfOne_pos))
    have hpow : ∀ a b : ℕ, a ≤ b → 2 ^ a ≤ 2 ^ b := fun a b h =>
      Nat.pow_le_pow_right (by norm_num) h
    exact hpow 52 1024 (by norm_num)
  · have hmod : rank % 2 ^ 52 < 2 ^ 52 := Nat.mod_lt _ (by norm_num)
    have hblock : rank / 2 ^ 52 ≤ 2046 := by omega
    have hpow : ∀ a b c : ℕ, a ≤ b + c → 2 ^ a ≤ 2 ^ b * 2 ^ c := by
      intro a b c h
      rw [← pow_add]
      exact Nat.pow_le_pow_right (by norm_num) h
    rw [units_of_le (not_lt.mp hsmall), unitsOfOne_eq]
    calc (2 ^ 52 + rank % 2 ^ 52) * 2 ^ (rank / 2 ^ 52 - 1)
        < 2 ^ 53 * 2 ^ (rank / 2 ^ 52 - 1) :=
          Nat.mul_lt_mul_of_pos_right (by omega) (by positivity)
      _ = 2 ^ (53 + (rank / 2 ^ 52 - 1)) := (pow_add _ _ _).symm
      _ ≤ 2 ^ 1024 * 2 ^ 1074 := hpow _ 1024 1074 (by omega)

/-- One comparison of a power of two and a power of ten gives many. -/
theorem two_pow_le_ten_pow {a b : ℕ} (h : 2 ^ a ≤ 10 ^ b) (k : ℕ) {m n : ℕ} (hm : m ≤ a * k)
    (hn : b * k ≤ n) : 2 ^ m ≤ 10 ^ n :=
  calc 2 ^ m ≤ 2 ^ (a * k) := Nat.pow_le_pow_right (by norm_num) hm
    _ = (2 ^ a) ^ k := pow_mul 2 a k
    _ ≤ (10 ^ b) ^ k := Nat.pow_le_pow_left h k
    _ = 10 ^ (b * k) := (pow_mul 10 b k).symm
    _ ≤ 10 ^ n := Nat.pow_le_pow_right (by norm_num) hn

/-- The least magnitude is far above a power of ten that the lower guard cuts off. -/
theorem unitsOfOne_le : unitsOfOne ≤ 10 ^ 330 := by
  rw [unitsOfOne_eq]
  exact two_pow_le_ten_pow (a := 49) (b := 15) (by norm_num) 22 (by norm_num) (by norm_num)

/-- The end of the range is below a power of ten that the upper guard lets through. -/
theorem two_pow_le : 2 ^ 1024 ≤ 10 ^ 310 :=
  two_pow_le_ten_pow (a := 205) (b := 62) (by norm_num) 5 (by norm_num) (by norm_num)

/-- A decimal that is exactly the magnitude of a rank reads as that rank. -/
theorem ofDecimal_of_units (negative : Bool) {m : ℕ} (hm : m ≠ 0) {e : ℤ} {rank : Fin rankLimit}
    (h : m * 10 ^ e.toNat * unitsOfOne = units rank * 10 ^ (-e).toNat) :
    ofDecimal negative m e = .finite negative rank := by
  have hwidth := Decimal.length_natDigits_pos m
  have hupper := (Decimal.length_natDigits_le_iff hwidth).mp le_rfl
  rw [ofDecimal_eq negative hm]
  generalize hw : (Decimal.natDigits m).length = width at *
  have hunits := units_lt rank.isLt
  rw [if_neg, if_neg]
  · rw [ofRatio_of_units negative (by positivity) h, ofRank_of_lt]
  · -- far below the range the magnitude would be less than the least one
    intro hlow
    have hneg : e.toNat = 0 := by omega
    rw [hneg, pow_zero, mul_one] at h
    have hpos : 0 < units rank := by
      refine Nat.pos_of_ne_zero fun hzero => ?_
      rw [hzero, zero_mul] at h
      exact Nat.mul_ne_zero hm unitsOfOne_pos.ne' h
    have hpow : 10 ^ (width + 330) ≤ 10 ^ (-e).toNat :=
      Nat.pow_le_pow_right (by norm_num) (by omega)
    have : m * unitsOfOne < m * unitsOfOne :=
      calc m * unitsOfOne < 10 ^ width * unitsOfOne :=
            Nat.mul_lt_mul_of_pos_right hupper unitsOfOne_pos
        _ ≤ 10 ^ width * 10 ^ 330 := Nat.mul_le_mul_left _ unitsOfOne_le
        _ = 10 ^ (width + 330) := (pow_add _ _ _).symm
        _ ≤ 10 ^ (-e).toNat := hpow
        _ ≤ units rank * 10 ^ (-e).toNat := Nat.le_mul_of_pos_left _ hpos
        _ = m * unitsOfOne := h.symm
    exact lt_irrefl _ this
  · -- far above it the magnitude would be beyond every finite one
    intro hhigh
    have hlower : 10 ^ (width - 1) ≤ m := by
      rcases Nat.lt_or_ge 1 width with hone | hone
      · by_contra hlt
        have := (Decimal.length_natDigits_le_iff (n := m) (k := width - 1) (by omega)).mpr
          (not_le.mp hlt)
        omega
      · rw [show width - 1 = 0 by omega, pow_zero]
        exact Nat.pos_of_ne_zero hm
    have hpow : 10 ^ (310 + (-e).toNat) ≤ 10 ^ (width - 1 + e.toNat) :=
      Nat.pow_le_pow_right (by norm_num) (by omega)
    have : units rank * 10 ^ (-e).toNat < units rank * 10 ^ (-e).toNat :=
      calc units rank * 10 ^ (-e).toNat < 2 ^ 1024 * unitsOfOne * 10 ^ (-e).toNat :=
            Nat.mul_lt_mul_of_pos_right hunits (by positivity)
        _ ≤ 10 ^ 310 * unitsOfOne * 10 ^ (-e).toNat :=
            Nat.mul_le_mul_right _ (Nat.mul_le_mul_right _ two_pow_le)
        _ = 10 ^ (310 + (-e).toNat) * unitsOfOne := by rw [pow_add, mul_right_comm]
        _ ≤ 10 ^ (width - 1 + e.toNat) * unitsOfOne := Nat.mul_le_mul_right _ hpow
        _ = 10 ^ (width - 1) * 10 ^ e.toNat * unitsOfOne := by rw [pow_add]
        _ ≤ m * 10 ^ e.toNat * unitsOfOne :=
            Nat.mul_le_mul_right _ (Nat.mul_le_mul_right _ hlower)
        _ = units rank * 10 ^ (-e).toNat := h
    exact lt_irrefl _ this

/-- A rank other than zero has a significand other than zero. -/
theorem significand_ne_zero {rank : ℕ} (h : rank ≠ 0) : significand rank ≠ 0 := by
  unfold significand
  split
  · exact h
  · have := Nat.two_pow_pos 52
    rw [blockSize_eq]
    omega

/-- The exact expansion of a number but zero reads back as it. -/
theorem ofDecimal_exact (negative : Bool) {rank : Fin rankLimit} (hrank : rank.val ≠ 0) :
    ofDecimal negative (Decimal.exact rank).digits (Decimal.exact rank).exponent =
      .finite negative rank := by
  have hdigits : (Decimal.exact rank).digits ≠ 0 :=
    Nat.mul_ne_zero (Nat.mul_ne_zero (significand_ne_zero hrank) (by simp)) (by simp)
  refine ofDecimal_of_units negative hdigits ?_
  have hunits := numerator_mul_unitsOfOne rank
  simp only [numerator, denominator, Nat.pow_eq] at hunits
  simp only [Decimal.exact, Nat.pow_eq]
  generalize exponent rank = e at *
  have hzero : (min e 0).toNat = 0 := by omega
  have hten : 10 ^ (-min e 0).toNat = 2 ^ (-e).toNat * 5 ^ (-e).toNat := by
    rw [← Nat.mul_pow, show (-min e 0).toNat = (-e).toNat by omega]
  rw [hzero, pow_zero, mul_one, hten]
  calc significand rank * 2 ^ e.toNat * 5 ^ (-e).toNat * unitsOfOne
      = significand rank * 2 ^ e.toNat * unitsOfOne * 5 ^ (-e).toNat := by ring
    _ = units rank * (2 ^ (-e).toNat * 5 ^ (-e).toNat) := by rw [hunits, mul_assoc]

/-- The shortest decimal of a number but zero reads back as it. -/
theorem ofDecimal_shortest (negative : Bool) {rank : Fin rankLimit} (hrank : rank.val ≠ 0) :
    ofDecimal negative (Decimal.shortest rank).digits (Decimal.shortest rank).exponent =
      .finite negative rank := by
  unfold Decimal.shortest
  cases hfound : ((List.range 17).map (· + 1)).findSome? (Decimal.withDigits? rank) with
  | none => exact ofDecimal_exact negative hrank
  | some d =>
    rw [Option.getD_some]
    obtain ⟨n, -, hd⟩ := List.exists_of_findSome?_eq_some hfound
    have hreads : d.readsBack rank := by
      unfold Decimal.withDigits? at hd
      exact List.find?_some (p := fun d : Decimal.Scaled => d.readsBack rank) hd
    unfold Decimal.Scaled.readsBack Decimal.Scaled.toBinary64 at hreads
    split at hreads
    · next r hr =>
      rw [← Fin.ext (of_decide_eq_true hreads)]
      exact ofDecimal_eq_finite hr
    · cases hreads

end ContentGateway.Binary64
