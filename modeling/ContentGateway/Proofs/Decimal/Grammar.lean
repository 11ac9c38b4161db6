import Mathlib
import ContentGateway.Proofs.Decimal.Notation

/-!
# Decimal numbers

A decimal number is digits, with a sign in front or not, a fraction behind a point or not, and an
exponent behind its letter or not. The text of every whole number and of every finite binary64
number is one, however its digits are laid out. Infinities and NaN have texts that are none.
-/

namespace ContentGateway.Decimal

structure IsRun (ds : List Char) : Prop where
  ne_nil : ds ≠ []
  digits : ∀ c ∈ ds, c.isDigit

def IsSign (cs : List Char) : Prop := cs ∈ [[], ['+'], ['-']]

def IsFraction (cs : List Char) : Prop := cs = [] ∨ ∃ ds, IsRun ds ∧ cs = '.' :: ds

def IsExponent (cs : List Char) : Prop :=
  cs = [] ∨ ∃ mark sign ds, mark ∈ ['e', 'E'] ∧ IsSign sign ∧ IsRun ds ∧ cs = mark :: (sign ++ ds)

inductive IsDecimal : List Char → Prop
  | mk {sign whole fraction exponent : List Char} (hsign : IsSign sign) (hwhole : IsRun whole)
      (hfraction : IsFraction fraction) (hexponent : IsExponent exponent) :
      IsDecimal (sign ++ (whole ++ (fraction ++ exponent)))

/-! ## Characters -/

/-- A character that a decimal number can have. -/
def isDecimalChar (c : Char) : Bool :=
  c.isDigit || c = '+' || c = '-' || c = '.' || c = 'e' || c = 'E'

/-- Digits are characters of a decimal number. -/
theorem IsRun.mem {ds : List Char} (h : IsRun ds) : ∀ c ∈ ds, isDecimalChar c := by
  intro c hc
  rw [isDecimalChar, h.digits c hc]
  rfl

theorem IsSign.mem {cs : List Char} (h : IsSign cs) : ∀ c ∈ cs, isDecimalChar c := by
  simp only [IsSign, List.mem_cons, List.not_mem_nil, or_false] at h
  rcases h with rfl | rfl | rfl <;> simp [isDecimalChar]

theorem IsFraction.mem {cs : List Char} (h : IsFraction cs) : ∀ c ∈ cs, isDecimalChar c := by
  rcases h with rfl | ⟨ds, hds, rfl⟩
  · exact List.forall_mem_nil _
  · exact List.forall_mem_cons.mpr ⟨rfl, hds.mem⟩

theorem IsExponent.mem {cs : List Char} (h : IsExponent cs) : ∀ c ∈ cs, isDecimalChar c := by
  rcases h with rfl | ⟨mark, sign, ds, hmark, hsign, hds, rfl⟩
  · exact List.forall_mem_nil _
  · have hmarks : ∀ c ∈ ['e', 'E'], isDecimalChar c := by simp [isDecimalChar]
    exact List.forall_mem_cons.mpr
      ⟨hmarks mark hmark, List.forall_mem_append.mpr ⟨hsign.mem, hds.mem⟩⟩

/-- A decimal number is made of digits, signs, a point and the letter of the exponent. -/
theorem IsDecimal.mem {cs : List Char} (h : IsDecimal cs) : ∀ c ∈ cs, isDecimalChar c := by
  cases h with
  | mk hsign hwhole hfraction hexponent =>
    simp only [List.forall_mem_append]
    exact ⟨hsign.mem, hwhole.mem, hfraction.mem, hexponent.mem⟩

/-! ## The text of a number -/

/-- The digits of a number are digits, at least one. -/
theorem isRun_natDigits (n : ℕ) : IsRun (natDigits n) :=
  ⟨natDigits_ne_nil n, fun _ => isDigit_of_mem_natDigits⟩

theorem isRun_zero : IsRun ['0'] := ⟨by simp, by simp⟩

/-- Zeros before or behind digits are more digits. -/
theorem IsRun.append {ds es : List Char} (h : ds ≠ [] ∨ es ≠ []) (hds : ∀ c ∈ ds, c.isDigit)
    (hes : ∀ c ∈ es, c.isDigit) : IsRun (ds ++ es) :=
  ⟨by simpa [imp_iff_not_or] using h, List.forall_mem_append.mpr ⟨hds, hes⟩⟩

theorem isDigit_of_mem_replicate {k : ℕ} : ∀ c ∈ List.replicate k '0', c.isDigit := by
  intro c hc
  rw [List.eq_of_mem_replicate hc]
  rfl

/-- The text of a whole number is a decimal number. -/
theorem isDecimal_intText (i : ℤ) : IsDecimal (intText i).toList := by
  have hnat : ∀ (sign : List Char) (n : ℕ), IsSign sign → IsDecimal (sign ++ n.repr.toList) := by
    intro sign n hsign
    rw [Nat.toList_repr, ← natDigits_eq, ← List.append_nil (natDigits n)]
    exact .mk hsign (isRun_natDigits n) (.inl rfl) (.inl rfl)
  rw [intText, Int.toString_eq_repr, Int.repr_eq_if]
  split
  · exact hnat [] _ (.head _)
  · rw [String.toList_append]
    exact hnat ['-'] _ (by simp [IsSign])

/-- What is written for an exponent is one. -/
theorem isExponent_exponentText (e : ℤ) : IsExponent ('e' :: exponentText e) := by
  have hrun := isRun_natDigits e.natAbs
  have hdigits : IsRun (if (natDigits e.natAbs).length < 2 then '0' :: natDigits e.natAbs
      else natDigits e.natAbs) := by
    split
    · exact ⟨List.cons_ne_nil _ _, List.forall_mem_cons.mpr ⟨rfl, hrun.digits⟩⟩
    · exact hrun
  have hsign : IsSign [if e < 0 then '-' else '+'] := by
    split <;> simp [IsSign]
  exact .inr ⟨'e', _, _, .head _, hsign, hdigits, rfl⟩

/-- Digits are laid out as a decimal number, wherever the point stands. -/
theorem isDecimal_layout {sign ds : List Char} (hsign : IsSign sign) (hds : IsRun ds) (point : ℤ) :
    IsDecimal (sign ++ layout ds point) := by
  have hnone : IsExponent [] := .inl rfl
  rw [layout.eq_def]
  split
  · split
    · -- zeros behind the point come first
      have hrun : IsRun (List.replicate (-point).toNat '0' ++ ds) :=
        .append (.inr hds.ne_nil) isDigit_of_mem_replicate hds.digits
      simpa using IsDecimal.mk hsign isRun_zero (.inr ⟨_, hrun, rfl⟩) hnone
    dsimp only
    split
    · -- the point stands behind all digits
      have hrun : IsRun (ds ++ List.replicate (point.toNat - ds.length) '0') :=
        .append (.inl hds.ne_nil) hds.digits isDigit_of_mem_replicate
      simpa using IsDecimal.mk hsign hrun (.inr ⟨_, isRun_zero, rfl⟩) hnone
    · -- the point stands among the digits
      next hlow hlong =>
      have hbefore : IsRun (ds.take point.toNat) := by
        refine ⟨?_, fun c hc => hds.digits c (List.mem_of_mem_take hc)⟩
        rw [ne_eq, List.take_eq_nil_iff]
        simp only [hds.ne_nil, or_false]
        omega
      have hbehind : IsRun (ds.drop point.toNat) := by
        refine ⟨?_, fun c hc => hds.digits c (List.mem_of_mem_drop hc)⟩
        rw [ne_eq, List.drop_eq_nil_iff]
        omega
      simpa using IsDecimal.mk hsign hbefore (.inr ⟨_, hbehind, rfl⟩) hnone
  · -- one digit before the point, and an exponent
    cases ds with
    | nil => exact absurd rfl hds.ne_nil
    | cons d rest =>
      obtain ⟨hd, hrest⟩ := List.forall_mem_cons.mp hds.digits
      have hfirst : IsRun [d] := ⟨by simp, by simpa using hd⟩
      have hfraction : IsFraction (if rest.isEmpty then [] else '.' :: rest) := by
        split
        · exact .inl rfl
        · next hne => exact .inr ⟨rest, ⟨by simpa using hne, hrest⟩, rfl⟩
      simpa using IsDecimal.mk hsign hfirst hfraction (isExponent_exponentText (point - 1))

/-- What is written for a rank is a decimal number, with or without a sign. -/
theorem isDecimal_rankText {sign : List Char} (hsign : IsSign sign) (rank : ℕ) :
    IsDecimal (sign ++ rankText rank) := by
  rw [rankText]
  split
  · exact .mk hsign isRun_zero (.inr ⟨['0'], isRun_zero, rfl⟩) (.inl rfl)
  · next hrank =>
    refine isDecimal_layout hsign ⟨significant_ne_nil (shortest_digits_ne_zero hrank), ?_⟩ _
    exact fun c hc => isDigit_of_mem_natDigits (mem_of_mem_significant hc)

/-- The text of a finite binary64 number is a decimal number. -/
theorem isDecimal_text (negative : Bool) (rank : Fin Binary64.rankLimit) :
    IsDecimal (Binary64.finite negative rank).text.toList := by
  rw [Binary64.text, String.toList_ofList]
  cases negative with
  | false =>
    have hsign : IsSign [] := .head _
    exact isDecimal_rankText hsign rank
  | true =>
    have hsign : IsSign ['-'] := by simp [IsSign]
    exact isDecimal_rankText hsign rank

end ContentGateway.Decimal
