import Mathlib
import ContentGateway.Decimal.Binary64

/-!
# Rounding to binary64

Every operation on binary64 numbers rounds once, in `Binary64.ofRatio`. This module proves what that
rounding does. Magnitudes are counted in *units*, the least positive number `2 ^ -1074`: a finite
number is a whole count of them, so the proofs stay in `ℕ`.
-/

namespace ContentGateway.Binary64

/-- How many units make up one. -/
def unitsOfOne : ℕ := 2 ^ 1074

theorem unitsOfOne_eq : unitsOfOne = 2 ^ 1074 := rfl

-- powers of this size are never computed, only compared by their exponents
attribute [irreducible] unitsOfOne

/-- The magnitude of a rank in units. -/
def units (rank : ℕ) : ℕ := significand rank * 2 ^ (rank / blockSize - 1)

theorem blockSize_eq : blockSize = 2 ^ 52 := Nat.pow_eq

theorem rankLimit_eq : rankLimit = 2047 * 2 ^ 52 := by rw [rankLimit, blockSize_eq]

theorem unitsOfOne_pos : 0 < unitsOfOne := by
  rw [unitsOfOne_eq]
  positivity

/-- Below the normal numbers, a rank is its magnitude in units. -/
theorem units_of_lt {rank : ℕ} (h : rank < 2 ^ 52) : units rank = rank := by
  have hblock : rank < blockSize := blockSize_eq ▸ h
  rw [units, significand, if_pos hblock, Nat.div_eq_of_lt hblock, Nat.zero_sub, pow_zero, mul_one]

/-- From the normal numbers on, a magnitude is a significand with its leading bit, scaled. -/
theorem units_of_le {rank : ℕ} (h : 2 ^ 52 ≤ rank) :
    units rank = (2 ^ 52 + rank % 2 ^ 52) * 2 ^ (rank / 2 ^ 52 - 1) := by
  have hblock : ¬ rank < blockSize := by rw [blockSize_eq]; omega
  rw [units, significand, if_neg hblock, blockSize_eq]

/-! ## The nearest whole number -/

/-- Numerator and denominator may be scaled alike. -/
theorem roundDiv_mul_right (num den : ℕ) {k : ℕ} (hk : 0 < k) :
    roundDiv (num * k) (den * k) = roundDiv num den := by
  have hleft : 2 * (num % den * k) < den * k ↔ 2 * (num % den) < den := by
    rw [← mul_assoc]
    exact Nat.mul_lt_mul_right hk
  have hright : den * k < 2 * (num % den * k) ↔ den < 2 * (num % den) := by
    rw [← mul_assoc]
    exact Nat.mul_lt_mul_right hk
  simp only [roundDiv, Nat.mul_mod_mul_right, Nat.mul_div_mul_right num den hk, hleft, hright]

/-- A quotient that is whole is rounded to itself. -/
theorem roundDiv_mul_self (k : ℕ) {den : ℕ} (hden : 0 < den) : roundDiv (k * den) den = k := by
  simp only [roundDiv, Nat.mul_mod_left, mul_zero, if_pos hden, Nat.mul_div_cancel k hden]

/-- Rounding takes one of the two neighbours, and the upper one only from the middle on. -/
theorem roundDiv_cases (num den : ℕ) :
    (roundDiv num den = num / den ∧ 2 * (num % den) ≤ den ∧
        (2 * (num % den) = den → num / den % 2 = 0)) ∨
      (roundDiv num den = num / den + 1 ∧ den ≤ 2 * (num % den)) := by
  unfold roundDiv
  dsimp only
  split
  · exact .inl ⟨rfl, by omega, by omega⟩
  · split
    · exact .inr ⟨rfl, by omega⟩
    · split
      · exact .inl ⟨rfl, by omega, by omega⟩
      · exact .inr ⟨rfl, by omega⟩

/-- An even number is reached from half a step below it on. -/
theorem le_roundDiv_iff (num : ℕ) {den k : ℕ} (hden : 0 < den) (hk : 0 < k) (heven : k % 2 = 0) :
    k ≤ roundDiv num den ↔ (2 * k - 1) * den ≤ 2 * num := by
  have hsplit := Nat.div_add_mod num den
  have hrest := Nat.mod_lt num hden
  have hcut : (2 * k - 1) * den + den = 2 * (k * den) := by
    rw [← Nat.succ_mul, Nat.succ_eq_add_one, Nat.sub_add_cancel (by omega), mul_assoc]
  have hstep : ∀ a b : ℕ, a ≤ b → a * den ≤ b * den := fun a b h => Nat.mul_le_mul_right den h
  rw [Nat.mul_comm] at hsplit
  generalize hq : num / den = q at *
  rcases roundDiv_cases num den with ⟨hr, hle, htie⟩ | ⟨hr, hge⟩
  · rw [hr, hq]
    constructor
    · intro h
      have := hstep k q h
      omega
    · intro h
      by_contra hlt
      have hnext := hstep (q + 1) k (by omega)
      rw [Nat.succ_mul] at hnext
      -- only a tie could reach `k`, and a tie goes to the even neighbour, which is not `q = k - 1`
      have hk' : q + 1 = k := by
        by_contra hne
        have := hstep (q + 2) k (by omega)
        rw [Nat.succ_mul, Nat.succ_mul] at this
        omega
      have hsame : k * den = q * den + den := by rw [← hk', Nat.succ_mul]
      have := htie (by omega)
      omega
  · rw [hr, hq]
    constructor
    · intro h
      have := hstep k (q + 1) h
      rw [Nat.succ_mul] at this
      omega
    · intro h
      by_contra hlt
      have := hstep (q + 2) k (by omega)
      rw [Nat.succ_mul, Nat.succ_mul] at this
      omega

/-- A quotient from a whole number on does not round below it. -/
theorem le_roundDiv_of_le {num den k : ℕ} (hden : 0 < den) (h : k * den ≤ num) :
    k ≤ roundDiv num den := by
  have hq : k ≤ num / den := (Nat.le_div_iff_mul_le hden).mpr h
  rcases roundDiv_cases num den with ⟨hr, -⟩ | ⟨hr, -⟩ <;> omega

/-- A quotient below a whole number does not round above it. -/
theorem roundDiv_le_of_lt {num den k : ℕ} (hden : 0 < den) (h : num < k * den) :
    roundDiv num den ≤ k := by
  have hq : num / den < k := (Nat.div_lt_iff_lt_mul hden).mpr h
  rcases roundDiv_cases num den with ⟨hr, -⟩ | ⟨hr, -⟩ <;> omega

/-! ## The last place

`lastPlace` compares the quotient with a power of two, found from the bit lengths of numerator and
denominator. Counted in units, its answer is a *place*: the exponent of the grid on which the
quotient is rounded. The place is fixed by two bounds, `num_lt_place` and `place_le_num`.
-/

/-- The exponent, in units, of the grid on which a quotient is rounded. -/
def place (num den : ℕ) : ℕ := (lastPlace num den + 1074).toNat

/-- A power of two is a quotient of two natural ones. -/
theorem two_zpow_eq_div (e : ℤ) : (2 : ℚ) ^ e = 2 ^ e.toNat / 2 ^ (-e).toNat := by
  rcases le_total 0 e with h | h
  · obtain ⟨n, rfl⟩ := Int.eq_ofNat_of_zero_le h
    simp
  · obtain ⟨n, hn⟩ := Int.eq_ofNat_of_zero_le (Int.neg_nonneg_of_nonpos h)
    obtain rfl : e = -n := by omega
    simp

/-- Comparison with a power of two, with the power on the side where its exponent is a count. -/
theorem scaled_lt_iff (num den : ℕ) (e : ℤ) :
    num * Nat.pow 2 (-e).toNat < den * Nat.pow 2 e.toNat ↔ (num : ℚ) < den * 2 ^ e := by
  rw [two_zpow_eq_div, ← mul_div_assoc, lt_div_iff₀ (by positivity), Nat.pow_eq, Nat.pow_eq]
  exact_mod_cast Iff.rfl

def leading (num den : ℕ) : ℤ :=
  let guess : ℤ := (num.log2 : ℤ) - den.log2
  if num * Nat.pow 2 (-guess).toNat < den * Nat.pow 2 guess.toNat then guess - 1 else guess

/-- The last place lies 52 bits behind the leading bit, but not below the least magnitude. -/
theorem lastPlace_eq {num : ℕ} (hnum : num ≠ 0) (den : ℕ) :
    lastPlace num den = max (leading num den - 52) (-1074) := by
  rw [lastPlace, if_neg hnum]
  rfl

theorem le_lastPlace (num den : ℕ) : -1074 ≤ lastPlace num den := by
  by_cases hnum : num = 0
  · rw [lastPlace, if_pos hnum]
  · rw [lastPlace_eq hnum]
    exact le_max_right _ _

/-- The last place in units is the place of the grid. -/
theorem lastPlace_eq_place (num den : ℕ) : lastPlace num den = place num den - 1074 := by
  have := le_lastPlace num den
  rw [place, Int.toNat_of_nonneg (by omega)]
  ring

/-- A number lies between the powers of two at its binary logarithm and behind it. -/
theorem log2_bounds {n : ℕ} (hn : n ≠ 0) :
    (2 : ℚ) ^ (n.log2 : ℤ) ≤ n ∧ (n : ℚ) < 2 ^ ((n.log2 : ℤ) + 1) := by
  constructor
  · rw [zpow_natCast]
    exact_mod_cast Nat.log2_self_le hn
  · rw [← Nat.cast_succ, zpow_natCast]
    exact_mod_cast Nat.lt_log2_self

/-- The leading bit brackets the quotient between two neighbouring powers of two. -/
theorem leading_bounds {num den : ℕ} (hnum : num ≠ 0) (hden : den ≠ 0) :
    (den : ℚ) * 2 ^ leading num den ≤ num ∧ (num : ℚ) < den * 2 ^ (leading num den + 1) := by
  obtain ⟨hnlow, hnhigh⟩ := log2_bounds hnum
  obtain ⟨hdlow, hdhigh⟩ := log2_bounds hden
  have hdpos : (0 : ℚ) < den := by exact_mod_cast Nat.pos_of_ne_zero hden
  unfold leading
  generalize (num.log2 : ℤ) = a at *
  generalize (den.log2 : ℤ) = b at *
  -- the bit lengths leave one place of doubt, which the comparison in `leading` settles
  have hlow : (den : ℚ) * 2 ^ (a - b - 1) ≤ num := by
    calc (den : ℚ) * 2 ^ (a - b - 1) ≤ 2 ^ (b + 1) * 2 ^ (a - b - 1) := by gcongr
      _ = 2 ^ a := by rw [← zpow_add₀ two_ne_zero]; congr 1; ring
      _ ≤ num := hnlow
  have hhigh : (num : ℚ) < den * 2 ^ (a - b + 1) := by
    calc (num : ℚ) < 2 ^ (a + 1) := hnhigh
      _ = 2 ^ b * 2 ^ (a - b + 1) := by rw [← zpow_add₀ two_ne_zero]; congr 1; ring
      _ ≤ den * 2 ^ (a - b + 1) := by gcongr
  dsimp only
  split
  · rename_i h
    refine ⟨hlow, ?_⟩
    rw [Int.sub_add_cancel]
    exact (scaled_lt_iff num den (a - b)).mp h
  · rename_i h
    exact ⟨not_lt.mp (mt (scaled_lt_iff num den (a - b)).mpr h), hhigh⟩

/-- In units, the quotient stays below `2 ^ 53` steps of its grid. -/
theorem num_lt_place (num : ℕ) {den : ℕ} (hden : 0 < den) :
    num * unitsOfOne < den * 2 ^ (place num den + 53) := by
  by_cases hnum : num = 0
  · rw [hnum, zero_mul]
    positivity
  · obtain ⟨-, hhigh⟩ := leading_bounds hnum hden.ne'
    have hplace := lastPlace_eq_place num den
    rw [lastPlace_eq hnum] at hplace
    have hq : (num : ℚ) * 2 ^ (1074 : ℤ) < den * 2 ^ ((place num den : ℤ) + 53) := by
      calc (num : ℚ) * 2 ^ (1074 : ℤ)
          < den * 2 ^ (leading num den + 1) * 2 ^ (1074 : ℤ) := by gcongr
        _ = den * 2 ^ (leading num den + 1 + 1074) := by rw [mul_assoc, ← zpow_add₀ two_ne_zero]
        _ ≤ den * 2 ^ ((place num den : ℤ) + 53) :=
            mul_le_mul_of_nonneg_left (zpow_le_zpow_right₀ one_le_two (by omega)) (by positivity)
    rw [unitsOfOne_eq]
    exact_mod_cast hq

/-- In units, the quotient has at least `2 ^ 52` steps of its grid, unless the grid is the
finest. -/
theorem place_le_num (num : ℕ) {den : ℕ} (hden : 0 < den) (hplace : place num den ≠ 0) :
    den * 2 ^ (place num den + 52) ≤ num * unitsOfOne := by
  have hlast := lastPlace_eq_place num den
  by_cases hnum : num = 0
  · rw [lastPlace, if_pos hnum] at hlast
    omega
  · obtain ⟨hlow, -⟩ := leading_bounds hnum hden.ne'
    rw [lastPlace_eq hnum] at hlast
    have hq : (den : ℚ) * 2 ^ ((place num den : ℤ) + 52) ≤ num * 2 ^ (1074 : ℤ) := by
      calc (den : ℚ) * 2 ^ ((place num den : ℤ) + 52)
          = den * 2 ^ leading num den * 2 ^ (1074 : ℤ) := by
            rw [mul_assoc, ← zpow_add₀ two_ne_zero]
            congr 2
            omega
        _ ≤ num * 2 ^ (1074 : ℤ) := by gcongr
    rw [unitsOfOne_eq]
    exact_mod_cast hq

/-- The place is the only exponent within both bounds. -/
theorem place_eq {num den p : ℕ} (hden : 0 < den)
    (hhigh : num * unitsOfOne < den * 2 ^ (p + 53))
    (hlow : p = 0 ∨ den * 2 ^ (p + 52) ≤ num * unitsOfOne) : place num den = p := by
  have hexp : ∀ a b : ℕ, den * 2 ^ a < den * 2 ^ b → a < b := by
    intro a b h
    exact (Nat.pow_lt_pow_iff_right (by norm_num)).mp (lt_of_mul_lt_mul_left h (Nat.zero_le den))
  have hnum := num_lt_place num hden
  apply le_antisymm
  · by_contra hlt
    have := hexp _ _ (lt_of_le_of_lt (place_le_num num hden (by omega)) hhigh)
    omega
  · rcases hlow with rfl | hlow
    · exact Nat.zero_le _
    · have := hexp _ _ (lt_of_le_of_lt hlow hnum)
      omega

/-! ## Rounding a quotient -/

def ofRank (negative : Bool) (rank : ℕ) : Binary64 :=
  if h : rank < rankLimit then .finite negative ⟨rank, h⟩ else .infinite negative

/-- Scaling numerator and denominator to units turns the grid into a count. -/
theorem steps_eq (num den : ℕ) :
    roundDiv (num * Nat.pow 2 (-lastPlace num den).toNat)
        (den * Nat.pow 2 (lastPlace num den).toNat) =
      roundDiv (num * unitsOfOne) (den * 2 ^ place num den) := by
  have hplace := lastPlace_eq_place num den
  simp only [Nat.pow_eq, unitsOfOne_eq]
  rcases le_total (lastPlace num den) 0 with h | h
  · rw [← roundDiv_mul_right _ _ (Nat.two_pow_pos (place num den)), mul_assoc, mul_assoc,
      ← pow_add, ← pow_add, show (-lastPlace num den).toNat + place num den = 1074 by omega,
      show (lastPlace num den).toNat + place num den = place num den by omega]
  · rw [← roundDiv_mul_right _ _ (k := 2 ^ 1074) (by positivity), mul_assoc, mul_assoc,
      ← pow_add, ← pow_add, show (-lastPlace num den).toNat + 1074 = 1074 by omega,
      show (lastPlace num den).toNat + 1074 = place num den by omega]

/-- Within the range, a rank has a finite number. -/
theorem ofRank_of_lt (negative : Bool) {rank : ℕ} (h : rank < rankLimit) :
    ofRank negative rank = .finite negative ⟨rank, h⟩ := dif_pos h

theorem ofRank_zero (negative : Bool) : ofRank negative 0 = zero negative := rfl

/-- Rounding finds the rank by counting steps of the grid behind the ranks of the finer grids. -/
theorem ofRatio_eq (negative : Bool) (num : ℕ) {den : ℕ} (hden : 0 < den) :
    ofRatio negative num den = ofRank negative
      (place num den * 2 ^ 52 + roundDiv (num * unitsOfOne) (den * 2 ^ place num den)) := by
  unfold ofRatio
  split
  · rename_i hnum
    have hplace : place num den = 0 := by rw [place, lastPlace, if_pos hnum]; rfl
    have hsteps : roundDiv (0 * (den * 2 ^ 0)) (den * 2 ^ 0) = 0 :=
      roundDiv_mul_self 0 (by positivity)
    rw [zero_mul] at hsteps
    rw [hplace, hnum, zero_mul, zero_mul, zero_add, hsteps, ofRank_zero]
  · dsimp only
    rw [steps_eq, ← place, blockSize_eq, ofRank]

/-- A rank has an infinite number exactly if it is beyond the range. -/
theorem ofRank_eq_infinite_iff (negative : Bool) (rank : ℕ) :
    ofRank negative rank = .infinite negative ↔ rankLimit ≤ rank := by
  unfold ofRank
  split
  · simpa using ‹rank < rankLimit›
  · simpa using ‹¬ rank < rankLimit›

/-- A quotient that is the magnitude of a rank rounds to that rank. -/
theorem ofRatio_of_units (negative : Bool) {num den rank : ℕ} (hden : 0 < den)
    (h : num * unitsOfOne = units rank * den) :
    ofRatio negative num den = ofRank negative rank := by
  rw [ofRatio_eq negative num hden, h]
  -- the first ranks lie on the finest grid, all others on the grid of their block
  by_cases hsmall : rank < 2 ^ 52
  · rw [units_of_lt hsmall] at h ⊢
    have hplace : place num den = 0 := by
      refine place_eq hden ?_ (.inl rfl)
      rw [h, mul_comm]
      exact Nat.mul_lt_mul_of_pos_left (by omega) hden
    rw [hplace, pow_zero, mul_one, roundDiv_mul_self rank hden, zero_mul, zero_add]
  · obtain ⟨q, hq⟩ : ∃ q, rank / 2 ^ 52 = q + 1 := ⟨rank / 2 ^ 52 - 1, by omega⟩
    have hf : rank % 2 ^ 52 < 2 ^ 52 := Nat.mod_lt _ (by norm_num)
    have hsplit := Nat.div_add_mod rank (2 ^ 52)
    rw [units_of_le (not_lt.mp hsmall), hq, Nat.add_sub_cancel] at h ⊢
    generalize rank % 2 ^ 52 = f at *
    have hplace : place num den = q := by
      refine place_eq hden ?_ (.inr ?_)
      · calc num * unitsOfOne = (2 ^ 52 + f) * (2 ^ q * den) := by rw [h, mul_assoc]
          _ < 2 ^ 53 * (2 ^ q * den) := Nat.mul_lt_mul_of_pos_right (by omega) (by positivity)
          _ = den * 2 ^ (q + 53) := by ring
      · calc den * 2 ^ (q + 52) = 2 ^ 52 * (2 ^ q * den) := by ring
          _ ≤ (2 ^ 52 + f) * (2 ^ q * den) := Nat.mul_le_mul_right _ (by omega)
          _ = num * unitsOfOne := by rw [h, mul_assoc]
    have hrank : q * 2 ^ 52 + (2 ^ 52 + f) = rank := by omega
    rw [hplace, mul_assoc, mul_comm (2 ^ q), roundDiv_mul_self _ (by positivity), hrank]

/-! ## The end of the finite range -/

/-- The least magnitude that rounds to infinity: half a step above the largest finite number. -/
def overflow : ℕ := 2 ^ 1024 - 2 ^ 970

theorem overflow_eq : overflow = 2 ^ 1024 - 2 ^ 970 := rfl

/-- The end of the finite range is below the next power of two. -/
theorem overflow_le : (overflow : ℚ) ≤ 2 ^ 1024 := by
  have hnat : overflow ≤ 2 ^ 1024 := Nat.sub_le _ _
  have hcast : (overflow : ℚ) ≤ ((2 ^ 1024 : ℕ) : ℚ) := Nat.cast_le.mpr hnat
  rwa [Nat.cast_pow, Nat.cast_ofNat] at hcast

attribute [irreducible] overflow

/-- The end of the finite range in units. -/
theorem overflow_mul_unitsOfOne : overflow * unitsOfOne = (2 ^ 54 - 1) * 2 ^ 2044 := by
  have hpow : ∀ a b : ℕ, (2 ^ (54 + a) - 2 ^ a) * 2 ^ b = (2 ^ 54 - 1) * 2 ^ (a + b) := by
    intro a b
    rw [pow_add 2 54, pow_add 2 a, ← mul_assoc, Nat.sub_mul (2 ^ 54), one_mul]
  have htop : (1024 : ℕ) = 54 + 970 := rfl
  have hunits : (2044 : ℕ) = 970 + 1074 := rfl
  rw [overflow_eq, unitsOfOne_eq, htop, hunits, hpow]

/-- Rounding leaves the finite range exactly where the magnitude reaches `overflow`. -/
theorem ofRatio_eq_infinite_iff (negative : Bool) (num : ℕ) {den : ℕ} (hden : 0 < den) :
    ofRatio negative num den = .infinite negative ↔ overflow * den ≤ num := by
  have hscale : overflow * den ≤ num ↔ (2 ^ 54 - 1) * (den * 2 ^ 2044) ≤ num * unitsOfOne := by
    rw [← Nat.mul_le_mul_right_iff unitsOfOne_pos, mul_right_comm, overflow_mul_unitsOfOne,
      mul_assoc, mul_comm (2 ^ 2044) den]
  rw [ofRatio_eq negative num hden, ofRank_eq_infinite_iff, hscale, rankLimit_eq]
  have hhigh := num_lt_place num hden
  have hlow := place_le_num num hden
  generalize place num den = p at *
  have hgrid : 0 < den * 2 ^ p := by positivity
  have hpow : ∀ k l, den * 2 ^ (k + l) = 2 ^ l * (den * 2 ^ k) := fun k l => by ring
  have hdouble : ∀ k, den * 2 ^ (k + 1) = 2 * (den * 2 ^ k) := fun k => by ring
  have hmono : ∀ k l, k ≤ l → den * 2 ^ k ≤ den * 2 ^ l :=
    fun k l h => Nat.mul_le_mul_left den (Nat.pow_le_pow_right (by norm_num) h)
  rw [hpow] at hhigh hlow
  -- the grids that finite numbers lie on, against half a step of the coarsest of them
  have hfine : p ≤ 2044 → den * 2 ^ p ≤ den * 2 ^ 2044 := hmono p 2044
  have hlast : p = 2045 → den * 2 ^ p = 2 * (den * 2 ^ 2044) := fun h => by rw [h, hdouble]
  have hcoarse : 2046 ≤ p → 2 ^ 2 * (den * 2 ^ 2044) ≤ den * 2 ^ p := fun h => by
    rw [← hpow]
    exact hmono (2044 + 2) p h
  have hsteps := roundDiv_le_of_lt hgrid hhigh
  have hreach := le_roundDiv_iff (num * unitsOfOne) (k := 2 ^ 53) hgrid (by norm_num) (by norm_num)
  have hmin := fun h => le_roundDiv_of_le hgrid (hlow h)
  generalize den * 2 ^ 2044 = half at *
  generalize roundDiv (num * unitsOfOne) (den * 2 ^ p) = steps at *
  generalize num * unitsOfOne = n at *
  generalize den * 2 ^ p = grid at *
  rcases Nat.lt_trichotomy p 2045 with hlt | rfl | hgt
  · have := hfine (by omega)
    omega
  · rw [hlast rfl] at hreach
    omega
  · have := hcoarse hgt
    have := hmin (by omega)
    have := hlow (by omega)
    omega

end ContentGateway.Binary64
