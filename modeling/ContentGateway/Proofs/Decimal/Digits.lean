import Mathlib
import ContentGateway.Decimal.Digits

/-!
# Digits and the number they stand for

Writing a number in decimal digits and reading digits back are inverse to each other. Digits behind
others scale what these stand for, so zeros in front do not count and zeros behind multiply by ten.
-/

namespace ContentGateway.Decimal

/-! ## Single digits -/

theorem isAsciiDigit_eq (c : Char) : Text.isAsciiDigit c = c.isDigit := rfl

/-- A digit is read back from its character. -/
theorem asciiDigit?_digitChar : ∀ d < 10, Text.asciiDigit? (Nat.digitChar d) = some d := by decide

/-- A character stands for a number below ten. -/
theorem asciiDigit_lt (c : Char) : (Text.asciiDigit? c).getD 0 < 10 := by
  unfold Text.asciiDigit?
  split
  · next h =>
    simp only [Bool.and_eq_true, decide_eq_true_eq] at h
    have hnine : '9'.toNat = '0'.toNat + 9 := rfl
    rw [Option.getD_some]
    omega
  · exact Nat.succ_pos 9

/-! ## Reading -/

theorem asciiValue_nil : asciiValue [] = 0 := rfl

theorem asciiValue_singleton (c : Char) : asciiValue [c] = (Text.asciiDigit? c).getD 0 := by
  simp [asciiValue, digitsValue]

/-- Digits behind others scale what these stand for. -/
theorem asciiValue_append (cs ds : List Char) :
    asciiValue (cs ++ ds) = asciiValue cs * 10 ^ ds.length + asciiValue ds := by
  have hconcat : ∀ (es : List Char) (c : Char),
      asciiValue (es ++ [c]) = 10 * asciiValue es + asciiValue [c] := by
    intro es c
    simp [asciiValue, digitsValue]
  induction ds using List.reverseRecOn with
  | nil => simp [asciiValue_nil]
  | append_singleton ds c ih =>
    rw [← List.append_assoc, hconcat, hconcat, ih, List.length_append, List.length_singleton,
      pow_succ]
    ring

/-- Zeros stand for zero. -/
theorem asciiValue_replicate_zero (n : ℕ) : asciiValue (List.replicate n '0') = 0 := by
  induction n with
  | zero => rfl
  | succ n ih =>
    have hzero : asciiValue ['0'] = 0 := rfl
    rw [List.replicate_succ', asciiValue_append, ih, hzero, zero_mul]

/-- Digits stand for a number below the power of ten of their count. -/
theorem asciiValue_lt (cs : List Char) : asciiValue cs < 10 ^ cs.length := by
  induction cs using List.reverseRecOn with
  | nil => exact Nat.one_pos
  | append_singleton cs c ih =>
    have hdigit := asciiDigit_lt c
    rw [asciiValue_append, asciiValue_singleton, List.length_append, List.length_singleton,
      pow_one, pow_succ]
    omega

/-! ## Writing -/

/-- The digits of a number are its base-ten digits. -/
theorem natDigits_eq (n : ℕ) : natDigits n = Nat.toDigits 10 n := by
  rw [natDigits, Nat.toString_eq_ofList_toDigits, String.toList_ofList]

/-- Every number has a digit. -/
theorem natDigits_ne_nil (n : ℕ) : natDigits n ≠ [] := by
  rw [natDigits_eq]
  exact Nat.toDigits_ne_nil

theorem natDigits_of_lt {n : ℕ} (h : n < 10) : natDigits n = [Nat.digitChar n] := by
  rw [natDigits_eq, Nat.toDigits_of_lt_base h]

/-- The last digit of a number stands behind those of a tenth of it. -/
theorem natDigits_of_le {n : ℕ} (h : 10 ≤ n) :
    natDigits n = natDigits (n / 10) ++ [Nat.digitChar (n % 10)] := by
  rw [natDigits_eq, natDigits_eq, Nat.toDigits_of_base_le (by norm_num) h]

/-- The digits of a number are ASCII digits. -/
theorem isDigit_of_mem_natDigits {n : ℕ} {c : Char} (h : c ∈ natDigits n) : c.isDigit := by
  rw [natDigits_eq] at h
  exact Nat.isDigit_of_mem_toDigits (by norm_num) le_rfl h

/-- A number has at most so many digits exactly if it is below the power of ten of the count. -/
theorem length_natDigits_le_iff {n k : ℕ} (hk : 0 < k) : (natDigits n).length ≤ k ↔ n < 10 ^ k := by
  rw [natDigits_eq]
  exact Nat.length_toDigits_le_iff (by norm_num) hk

theorem length_natDigits_pos (n : ℕ) : 0 < (natDigits n).length :=
  List.length_pos_iff.mpr (natDigits_ne_nil n)

/-- A multiple by a power of ten has as many digits more. -/
theorem length_natDigits_mul_pow {m : ℕ} (hm : m ≠ 0) (k : ℕ) :
    (natDigits (m * 10 ^ k)).length = (natDigits m).length + k := by
  have hpos := length_natDigits_pos m
  have hpos' := length_natDigits_pos (m * 10 ^ k)
  have hpow : 0 < 10 ^ k := by positivity
  apply le_antisymm
  · rw [length_natDigits_le_iff (by omega), pow_add]
    exact Nat.mul_lt_mul_of_pos_right ((length_natDigits_le_iff hpos).mp le_rfl) hpow
  · have hlt := (length_natDigits_le_iff hpos').mp le_rfl
    have hk : k < (natDigits (m * 10 ^ k)).length := by
      refine (Nat.pow_lt_pow_iff_right (a := 10) (by norm_num)).mp (lt_of_le_of_lt ?_ hlt)
      exact Nat.le_mul_of_pos_left _ (Nat.pos_of_ne_zero hm)
    obtain ⟨d, hd⟩ := Nat.exists_eq_add_of_lt hk
    rw [hd] at hlt ⊢
    have hm' : m < 10 ^ (d + 1) := by
      rw [show k + d + 1 = d + 1 + k by omega, pow_add] at hlt
      exact Nat.lt_of_mul_lt_mul_right hlt
    have hlength := (length_natDigits_le_iff (Nat.succ_pos d)).mpr hm'
    omega

/-- The digits of a number stand for it. -/
theorem asciiValue_natDigits (n : ℕ) : asciiValue (natDigits n) = n := by
  induction n using Nat.strong_induction_on with
  | h n ih =>
    have hdigit : ∀ d < 10, asciiValue [Nat.digitChar d] = d := by
      intro d hd
      rw [asciiValue_singleton, asciiDigit?_digitChar d hd, Option.getD_some]
    rcases lt_or_ge n 10 with hn | hn
    · rw [natDigits_of_lt hn, hdigit n hn]
    · rw [natDigits_of_le hn, asciiValue_append, ih (n / 10) (by omega),
        hdigit _ (Nat.mod_lt n (by norm_num)), List.length_singleton, pow_one]
      omega

/-- The first digit of a number other than zero is none. -/
theorem head?_natDigits_ne_zero {n : ℕ} (hn : n ≠ 0) : (natDigits n).head? ≠ some '0' := by
  induction n using Nat.strong_induction_on with
  | h n ih =>
    rcases lt_or_ge n 10 with hlt | hge
    · rw [natDigits_of_lt hlt, List.head?_cons, ne_eq, Option.some.injEq, Nat.digitChar_eq_zero]
      exact hn
    · rw [natDigits_of_le hge, List.head?_append_of_ne_nil _ (natDigits_ne_nil _)]
      exact ih (n / 10) (by omega) (by omega)

end ContentGateway.Decimal
