import Mathlib
import ContentGateway.Decimal.Reading
import ContentGateway.Proofs.Json.Numeral
import ContentGateway.Proofs.Text.Basic

/-!
# Whole numbers as people write them

What is read is within the limit, and the text of a number within the limit reads as it.
-/

namespace ContentGateway.Decimal

/-- A number that is read is short enough for text. -/
theorem readInt?_lt {s : String} {i : ℤ} (h : readInt? s = some i) :
    i.natAbs < 10 ^ digitLimit := by
  rw [readInt?] at h
  dsimp only at h
  split at h
  · cases h
  · next digits _ =>
    split at h
    · next hlength =>
      have hlt : asciiValue digits < 10 ^ digitLimit :=
        (asciiValue_lt digits).trans_le (Nat.pow_le_pow_right (by norm_num) hlength)
      obtain rfl := Option.some.inj h
      split <;> simpa using hlt
    · cases h

/-- A number below a thousand is short enough for text. -/
theorem lt_of_lt_thousand {n : ℕ} (h : n < 1000) : n < 10 ^ digitLimit :=
  calc n < 10 ^ 3 := h
    _ ≤ 10 ^ digitLimit := Nat.pow_le_pow_right (by norm_num) (by decide)

/-- A power of ten has one digit more than its exponent says. -/
theorem not_natAbs_ten_pow_lt (n : ℕ) : ¬ ((10 : ℤ) ^ n).natAbs < 10 ^ n := by
  rw [Int.natAbs_pow]
  exact lt_irrefl _

/-- Digits without underscores between them are themselves. By induction on the digits. -/
theorem groupedFrom_digits {cs : List Char} (h : ∀ c ∈ cs, c.isDigit) {afterDigit : Bool}
    (hne : afterDigit ∨ cs ≠ []) : groupedFrom afterDigit cs = some cs := by
  induction cs generalizing afterDigit with
  | nil =>
    rw [groupedFrom, if_pos (hne.resolve_right fun hnil => hnil rfl)]
  | cons c cs ih =>
    obtain ⟨hc, hcs⟩ := List.forall_mem_cons.mp h
    rw [groupedFrom.eq_def]
    split
    · next heq => cases heq
    · next heq =>
      rw [(List.cons.inj heq).1] at hc
      exact absurd hc (by decide)
    · next heq =>
      obtain ⟨rfl, rfl⟩ := List.cons.inj heq
      rw [if_pos (by rwa [isAsciiDigit_eq]), ih hcs (.inl rfl)]
      rfl

/-- The text of a whole number is plain already. -/
theorem plain_intText (i : ℤ) : plain (intText i) = (intText i).toList := by
  have hsafe : ∀ c ∈ (intText i).toList, plainChar c = c ∧ isMargin c = false := by
    have hdigit : ∀ c : Char, c.isDigit → plainChar c = c ∧ isMargin c = false := by
      intro c hc
      have hbounds : '0'.toNat ≤ c.toNat ∧ c.toNat ≤ '9'.toNat := by
        simpa [Text.isAsciiDigit] using (isAsciiDigit_eq c).trans hc
      have hzero : '0'.toNat = 48 := rfl
      have hnine : '9'.toNat = 57 := rfl
      refine ⟨by rw [plainChar, if_pos (by omega)], ?_⟩
      have hspace : c ≠ ' ' := by
        rintro rfl
        exact absurd hc (by decide)
      simp only [isMargin, hspace, decide_false, Bool.false_or, Bool.and_eq_false_iff,
        decide_eq_false_iff_not]
      omega
    intro c hc
    rw [Json.toList_intText, List.mem_append] at hc
    rcases hc with hc | hc
    · rw [Json.signOf] at hc
      split at hc
      · rw [List.mem_singleton.mp hc]
        decide
      · exact absurd hc List.not_mem_nil
    · exact hdigit c (isDigit_of_mem_natDigits hc)
  have hmap : (intText i).toList.map plainChar = (intText i).toList :=
    (List.map_congr_left fun c hc => (hsafe c hc).1).trans (List.map_id _)
  rw [plain, hmap]
  exact Text.trimBy_eq_self (fun c hc => (hsafe c (List.mem_of_mem_head? hc)).2)
    fun c hc => (hsafe c (List.mem_of_mem_getLast? hc)).2

/-- The text of a number reads back. -/
theorem readInt?_intText {i : ℤ} (hi : i.natAbs < 10 ^ digitLimit) :
    readInt? (intText i) = some i := by
  have hlength := (length_natDigits_le_iff (by decide)).mpr hi
  have hsigned : signed (intText i).toList = (decide (i < 0), natDigits i.natAbs) := by
    rw [Json.toList_intText]
    by_cases hneg : i < 0
    · rw [decide_eq_true hneg]
      rfl
    · rw [decide_eq_false hneg]
      show signed (natDigits i.natAbs) = _
      rw [signed.eq_def]
      split
      · next heq =>
        have hminus := isDigit_of_mem_natDigits (n := i.natAbs) (heq ▸ List.mem_cons_self)
        exact absurd hminus (by decide)
      · next heq =>
        have hplus := isDigit_of_mem_natDigits (n := i.natAbs) (heq ▸ List.mem_cons_self)
        exact absurd hplus (by decide)
      · rfl
  have hgrouped : grouped? (natDigits i.natAbs) = some (natDigits i.natAbs) :=
    groupedFrom_digits (fun c => isDigit_of_mem_natDigits) (.inr (natDigits_ne_nil _))
  rw [readInt?, plain_intText, hsigned]
  dsimp only
  rw [hgrouped]
  dsimp only
  rw [if_pos hlength, asciiValue_natDigits]
  by_cases hneg : i < 0
  · rw [if_pos (decide_eq_true hneg), show -((i.natAbs : ℕ) : ℤ) = i by omega]
  · rw [if_neg (by simpa using hneg), show ((i.natAbs : ℕ) : ℤ) = i by omega]

end ContentGateway.Decimal
