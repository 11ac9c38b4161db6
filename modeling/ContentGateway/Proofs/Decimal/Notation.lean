import Mathlib
import ContentGateway.Decimal.Shortest
import ContentGateway.Proofs.Decimal.Digits
import ContentGateway.Proofs.Decimal.Rounding

/-!
# The characters of a number's text

The text of a number is not empty, and it is made of digits, signs, a point, and the letters of `e`,
`inf` and `nan`. The one place where a text could be empty is the layout of a number without
significant digits; a decimal without any reads back as zero, so the search for the shortest text of
another number never takes one.
-/

namespace ContentGateway.Decimal

/-- A character that the text of a number can have. -/
def isNumeral (c : Char) : Bool :=
  c.isDigit || c = '+' || c = '-' || c = '.' || c = 'e' || c = 'i' || c = 'n' || c = 'f' || c = 'a'

/-- A text that is not empty and whose characters are those of numbers. -/
structure IsNumeral (cs : List Char) : Prop where
  ne_nil : cs ≠ []
  mem : ∀ c ∈ cs, isNumeral c

/-- A text is made of the characters of numbers if each of its characters is one. -/
theorem isNumeral_of_all {l : List Char} (h : l ≠ []) (hall : l.all isNumeral = true) :
    IsNumeral l :=
  ⟨h, List.all_eq_true.mp hall⟩

/-! ## Digits -/

/-- A digit is a character of numbers. -/
theorem isNumeral_of_isDigit {c : Char} (h : c.isDigit) : isNumeral c := by
  rw [isNumeral, h]
  rfl

theorem isNumeral_of_mem_natDigits {n : ℕ} {c : Char} (h : c ∈ natDigits n) : isNumeral c :=
  isNumeral_of_isDigit (isDigit_of_mem_natDigits h)

/-- Only zero has no digit but zeros. -/
theorem eq_zero_of_forall_natDigits {n : ℕ} (h : ∀ c ∈ natDigits n, c = '0') : n = 0 := by
  rw [natDigits_eq] at h
  induction n using Nat.strong_induction_on with
  | h n ih =>
    rcases lt_or_ge n 10 with hn | hn
    · rw [Nat.toDigits_of_lt_base hn] at h
      exact Nat.digitChar_eq_zero.mp (h _ List.mem_cons_self)
    · rw [Nat.toDigits_of_base_le (by norm_num) hn] at h
      have hfront := ih (n / 10) (by omega) fun c hc => h c (List.mem_append_left _ hc)
      omega

/-- The text of a whole number is a numeral. -/
theorem isNumeral_intText (i : ℤ) : IsNumeral (intText i).toList := by
  have hnat : ∀ n : ℕ, IsNumeral n.repr.toList := by
    intro n
    rw [Nat.toList_repr, ← natDigits_eq]
    exact ⟨natDigits_ne_nil n, fun c hc => isNumeral_of_mem_natDigits hc⟩
  rw [intText, Int.toString_eq_repr, Int.repr_eq_if]
  split
  · exact hnat _
  · rw [String.toList_append]
    refine ⟨by simp, fun c hc => ?_⟩
    rcases List.mem_append.mp hc with hc | hc
    · rw [List.mem_singleton.mp hc]
      rfl
    · exact (hnat _).mem c hc

/-! ## The shortest text -/

/-- A decimal that reads back as a number but zero has a digit but zero. -/
theorem digits_ne_zero_of_readsBack {d : Scaled} {rank : ℕ} (h : d.readsBack rank)
    (hrank : rank ≠ 0) : d.digits ≠ 0 := by
  intro hdigits
  rw [Scaled.readsBack, Scaled.toBinary64, Binary64.ofDecimal, if_pos hdigits] at h
  exact hrank (of_decide_eq_true h).symm

/-- The shortest decimal of a number but zero has a digit but zero. -/
theorem shortest_digits_ne_zero {rank : ℕ} (hrank : rank ≠ 0) : (shortest rank).digits ≠ 0 := by
  rw [shortest]
  cases hfound : ((List.range 17).map (· + 1)).findSome? (withDigits? rank) with
  | some d =>
    obtain ⟨n, -, hd⟩ := List.exists_of_findSome?_eq_some hfound
    have hreads : d.readsBack rank := by
      rw [withDigits?] at hd
      exact List.find?_some (p := fun d : Scaled => d.readsBack rank) hd
    exact digits_ne_zero_of_readsBack hreads hrank
  | none =>
    have hsignificand : Binary64.significand rank ≠ 0 := by
      rw [Binary64.significand]
      split
      · exact hrank
      · have := Binary64.blockSize_eq
        omega
    simp only [Option.getD_none, exact]
    exact Nat.mul_ne_zero (Nat.mul_ne_zero hsignificand (by simp)) (by simp)

/-- A number that is not zero has a significant digit. -/
theorem significant_ne_nil {n : ℕ} (hn : n ≠ 0) : significant (natDigits n) ≠ [] := by
  intro h
  rw [significant, List.reverse_eq_nil_iff, List.dropWhile_eq_nil_iff] at h
  refine hn (eq_zero_of_forall_natDigits fun c hc => ?_)
  exact of_decide_eq_true (h c (List.mem_reverse.mpr hc))

/-- The significant digits are among the digits. -/
theorem mem_of_mem_significant {cs : List Char} {c : Char} (h : c ∈ significant cs) : c ∈ cs := by
  rw [significant, List.mem_reverse] at h
  exact List.mem_reverse.mp (List.dropWhile_subset _ h)

/-! ## Notation -/

/-- The text of an exponent is made of the characters of numbers. -/
theorem isNumeral_exponentText (e : ℤ) : IsNumeral (exponentText e) := by
  have hdigits : ∀ c ∈ natDigits e.natAbs, isNumeral c := fun c hc => isNumeral_of_mem_natDigits hc
  rw [exponentText]
  refine ⟨List.cons_ne_nil _ _, List.forall_mem_cons.mpr ⟨?_, ?_⟩⟩
  · split <;> rfl
  · split
    · exact List.forall_mem_cons.mpr ⟨rfl, hdigits⟩
    · exact hdigits

/-- Digits are laid out as a numeral if there are any. -/
theorem isNumeral_layout {digits : List Char} (h : IsNumeral digits) (point : ℤ) :
    IsNumeral (layout digits point) := by
  have hzeros : ∀ k, ∀ c ∈ List.replicate k '0', isNumeral c := by
    intro k c hc
    rw [List.eq_of_mem_replicate hc]
    rfl
  have hpoint : isNumeral '.' := rfl
  rw [layout.eq_def]
  -- without an exponent the point stands before, behind or among the digits
  split
  · split
    · refine ⟨List.cons_ne_nil _ _, ?_⟩
      simp only [List.cons_append, List.forall_mem_cons, List.forall_mem_append]
      exact ⟨rfl, hpoint, hzeros _, h.mem⟩
    dsimp only
    split
    · refine ⟨by simp, ?_⟩
      simp only [List.forall_mem_append]
      exact ⟨⟨h.mem, hzeros _⟩, List.forall_mem_cons.mpr ⟨hpoint, hzeros 1⟩⟩
    · refine ⟨by simp, ?_⟩
      simp only [List.forall_mem_append, List.forall_mem_cons]
      exact ⟨fun c hc => h.mem c (List.mem_of_mem_take hc), hpoint,
        fun c hc => h.mem c (List.mem_of_mem_drop hc)⟩
  · cases digits with
    | nil => exact absurd rfl h.ne_nil
    | cons d rest =>
      obtain ⟨hd, hrest⟩ := List.forall_mem_cons.mp h.mem
      refine ⟨by simp, ?_⟩
      simp only [List.cons_append, List.forall_mem_cons, List.forall_mem_append]
      refine ⟨hd, ?_, rfl, (isNumeral_exponentText _).mem⟩
      split
      · exact fun c hc => absurd hc List.not_mem_nil
      · exact List.forall_mem_cons.mpr ⟨hpoint, hrest⟩

theorem isNumeral_rankText (rank : ℕ) : IsNumeral (rankText rank) := by
  rw [rankText]
  split
  · exact isNumeral_of_all (by simp) rfl
  · next hrank =>
    refine isNumeral_layout ⟨significant_ne_nil (shortest_digits_ne_zero hrank), ?_⟩ _
    exact fun c hc => isNumeral_of_mem_natDigits (mem_of_mem_significant hc)

/-- The text of a binary64 number is a numeral. -/
theorem isNumeral_text (x : Binary64) : IsNumeral x.text.toList := by
  rw [Binary64.text.eq_def]
  cases x with
  | nan => exact isNumeral_of_all (l := ['n', 'a', 'n']) (by simp) rfl
  | infinite negative =>
    cases negative with
    | false => exact isNumeral_of_all (l := ['i', 'n', 'f']) (by simp) rfl
    | true => exact isNumeral_of_all (l := ['-', 'i', 'n', 'f']) (by simp) rfl
  | finite negative rank =>
    dsimp only
    rw [String.toList_ofList]
    split
    · exact ⟨List.cons_ne_nil _ _, List.forall_mem_cons.mpr ⟨rfl, (isNumeral_rankText rank).mem⟩⟩
    · exact isNumeral_rankText rank

end ContentGateway.Decimal
