import Mathlib
import ContentGateway.Json.Printer
import ContentGateway.Json.Reader
import ContentGateway.Proofs.Decimal.Notation
import ContentGateway.Proofs.Decimal.ReadBack
import ContentGateway.Proofs.Value.Display

/-!
# Reading the text of a number

A number that is read ends before the first character that no number goes on with. What a whole
number is written as reads as that number, if its digits are within the limit. What a finite
binary64 number is written as reads as it: however its shortest digits are laid out, their decimal
value is the same.
-/

namespace ContentGateway.Json

open Decimal (natDigits asciiValue layout significant)

/-- Whether no number goes on with a text. -/
def EndsNumber (rest : List Char) : Prop :=
  ∀ c ∈ rest.head?, c.isDigit = false ∧ c ≠ '.' ∧ c ≠ 'e' ∧ c ≠ 'E'

def signOf (negative : Bool) : List Char := if negative then ['-'] else []

/-! ## Runs of digits -/

/-- Digits are read up to the first character that is none. -/
theorem digitRun_append {ds rest : List Char} (hds : ∀ c ∈ ds, c.isDigit)
    (hrest : ∀ c ∈ rest.head?, c.isDigit = false) : digitRun (ds ++ rest) = (ds, rest) := by
  have htake : rest.takeWhile Char.isDigit = [] ∧ rest.dropWhile Char.isDigit = rest := by
    cases rest with
    | nil => exact ⟨rfl, rfl⟩
    | cons c rest =>
      have hc := hrest c rfl
      exact ⟨List.takeWhile_cons_of_neg (by simp [hc]), List.dropWhile_cons_of_neg (by simp [hc])⟩
  show (List.takeWhile Char.isDigit (ds ++ rest), List.dropWhile Char.isDigit (ds ++ rest)) = _
  rw [List.takeWhile_append_of_pos hds, List.dropWhile_append_of_pos hds, htake.1, htake.2,
    List.append_nil]

/-- Digits as a whole number is written: at least one, and no zero in front of others. -/
structure IsWhole (ds : List Char) : Prop where
  ne_nil : ds ≠ []
  digits : ∀ c ∈ ds, c.isDigit
  head : ds.head? ≠ some '0' ∨ ds = ['0']

/-- A whole number is read up to the first character that is no digit. -/
theorem wholeRun_append {ds rest : List Char} (hds : IsWhole ds)
    (hrest : ∀ c ∈ rest.head?, c.isDigit = false) : wholeRun (ds ++ rest) = (ds, rest) := by
  rcases hds.head with hhead | rfl
  · obtain ⟨c, cs, rfl⟩ := List.exists_cons_of_ne_nil hds.ne_nil
    have hc : c ≠ '0' := by simpa using hhead
    rw [wholeRun.eq_def]
    split
    · next heq => exact absurd (List.cons.inj heq).1 hc
    · exact digitRun_append hds.digits hrest
  · rfl

/-- Without a point there is no fraction. -/
theorem fractionRun_of_head {rest : List Char} (h : rest.head? ≠ some '.') :
    fractionRun rest = ([], rest) := by
  rw [fractionRun.eq_def]
  split
  · exact absurd rfl h
  · rfl

/-- A fraction is read up to the first character that is no digit. -/
theorem fractionRun_append {ds rest : List Char} (hne : ds ≠ []) (hds : ∀ c ∈ ds, c.isDigit)
    (hrest : ∀ c ∈ rest.head?, c.isDigit = false) :
    fractionRun ('.' :: (ds ++ rest)) = (ds, rest) := by
  rw [fractionRun, digitRun_append hds hrest, if_neg (by simpa using hne)]

/-- Without its letter there is no exponent. -/
theorem exponentRun_of_head {rest : List Char} (h : rest.head? ≠ some 'e')
    (h' : rest.head? ≠ some 'E') : exponentRun rest = (none, rest) := by
  cases rest with
  | nil => rfl
  | cons c rest =>
    rw [exponentRun.eq_def]
    dsimp only
    rw [if_neg]
    simpa using ⟨fun hc => h (by rw [hc]; rfl), fun hc => h' (by rw [hc]; rfl)⟩

/-- An exponent reads back. -/
theorem exponentRun_exponentText (e : ℤ) {rest : List Char}
    (hrest : ∀ c ∈ rest.head?, c.isDigit = false) :
    exponentRun ('e' :: (Decimal.exponentText e ++ rest)) = (some e, rest) := by
  obtain ⟨ds, hds, hne, hdigits, hvalue⟩ : ∃ ds, Decimal.exponentText e =
      (if e < 0 then '-' else '+') :: ds ∧ ds ≠ [] ∧ (∀ c ∈ ds, c.isDigit) ∧
        asciiValue ds = e.natAbs := by
    have hdigits : ∀ c ∈ natDigits e.natAbs, c.isDigit := fun c =>
      Decimal.isDigit_of_mem_natDigits
    refine ⟨_, rfl, ?_⟩
    split
    · refine ⟨List.cons_ne_nil _ _, List.forall_mem_cons.mpr ⟨rfl, hdigits⟩, ?_⟩
      have hzero : asciiValue ['0'] = 0 := rfl
      rw [← List.singleton_append, Decimal.asciiValue_append, hzero, zero_mul, zero_add,
        Decimal.asciiValue_natDigits]
    · exact ⟨Decimal.natDigits_ne_nil _, hdigits, Decimal.asciiValue_natDigits _⟩
  have hempty : ds.isEmpty = false := by simpa using hne
  by_cases hsign : e < 0
  · rw [hds, if_pos hsign, List.cons_append, exponentRun.eq_def]
    simp only [digitRun_append hdigits hrest, hempty, hvalue, decide_true, Bool.true_or, if_true,
      Bool.false_eq_true, if_false]
    rw [show -((e.natAbs : ℕ) : ℤ) = e by omega]
  · rw [hds, if_neg hsign, List.cons_append, exponentRun.eq_def]
    simp only [digitRun_append hdigits hrest, hempty, hvalue, decide_true, Bool.true_or, if_true,
      Bool.false_eq_true, if_false]
    rw [show ((e.natAbs : ℕ) : ℤ) = e by omega]

section Ends

variable {rest : List Char} (h : EndsNumber rest)

include h

/-- A text with which no number goes on begins with no digit. -/
theorem EndsNumber.isDigit_head : ∀ c ∈ rest.head?, c.isDigit = false := fun c hc => (h c hc).1

/-- It begins with no fraction. -/
theorem EndsNumber.fractionRun : fractionRun rest = ([], rest) :=
  fractionRun_of_head fun hpoint => (h '.' hpoint).2.1 rfl

theorem EndsNumber.exponentRun : exponentRun rest = (none, rest) :=
  exponentRun_of_head (fun hmark => (h 'e' hmark).2.2.1 rfl) fun hmark => (h 'E' hmark).2.2.2 rfl

end Ends

/-! ## Numbers from their parts -/

/-- What the parts of a number say together. -/
def numberOf (negative : Bool) (whole fraction : List Char) (exponent : Option ℤ) : Step Value :=
  if fraction.isEmpty && exponent.isNone then
    if Decimal.digitLimit < whole.length then .error (.digitLimit whole.length)
    else .ok (.int (if negative then -(asciiValue whole : ℤ) else asciiValue whole))
  else
    .ok (.float (Binary64.ofDecimal negative (asciiValue (whole ++ fraction))
      (exponent.getD 0 - fraction.length)))

/-- A number is read by its parts. -/
theorem readNumber_of_runs (negative : Bool) {whole body fraction rest rest' : List Char}
    {exponent : Option ℤ} (hwhole : IsWhole whole) (hbody : ∀ c ∈ body.head?, c.isDigit = false)
    (hfraction : fractionRun body = (fraction, rest))
    (hexponent : exponentRun rest = (exponent, rest')) :
    readNumber (signOf negative ++ (whole ++ body)) =
      (numberOf negative whole fraction exponent).map fun v => (v, rest') := by
  have hne : whole.isEmpty = false := by simpa using hwhole.ne_nil
  cases negative with
  | true =>
    show readNumber ('-' :: (whole ++ body)) = _
    rw [readNumber.eq_def]
    simp only [wholeRun_append hwhole hbody, hne, Bool.false_eq_true, if_false, hfraction,
      hexponent]
    simp only [numberOf, if_true]
    split_ifs <;> rfl
  | false =>
    have hsign : ∀ rest, whole ++ body = '-' :: rest → False := by
      intro rest h
      obtain ⟨c, cs, rfl⟩ := List.exists_cons_of_ne_nil hwhole.ne_nil
      have hc := hwhole.digits c List.mem_cons_self
      rw [(List.cons.inj h).1] at hc
      exact absurd hc (by decide)
    show readNumber (whole ++ body) = _
    rw [readNumber.eq_def]
    simp only [wholeRun_append hwhole hbody, hne, Bool.false_eq_true, if_false, hfraction,
      hexponent]
    simp only [numberOf, Bool.false_eq_true, if_false]
    split_ifs <;> rfl

/-! ## Whole numbers -/

theorem isWhole_zero : IsWhole ['0'] := ⟨by simp, by simp, .inr rfl⟩

/-- The digits of a number are those of a whole number. -/
theorem isWhole_natDigits (n : ℕ) : IsWhole (natDigits n) where
  ne_nil := Decimal.natDigits_ne_nil n
  digits _ := Decimal.isDigit_of_mem_natDigits
  head := by
    by_cases hn : n = 0
    · rw [hn]
      exact .inr rfl
    · exact .inl (Decimal.head?_natDigits_ne_zero hn)

/-- The text of a whole number is its sign and its digits. -/
theorem toList_intText (i : ℤ) :
    (Decimal.intText i).toList = signOf (decide (i < 0)) ++ natDigits i.natAbs := by
  rw [Decimal.intText, Int.toString_eq_repr, Int.repr_eq_if]
  by_cases hi : i < 0
  · rw [if_neg (by omega), String.toList_append, Nat.toList_repr, ← Decimal.natDigits_eq,
      decide_eq_true hi, show (-i).toNat = i.natAbs by omega]
    rfl
  · rw [if_pos (by omega), Nat.toList_repr, ← Decimal.natDigits_eq, decide_eq_false hi,
      show i.toNat = i.natAbs by omega]
    rfl

/-- The text of a whole number within the limit reads as it. -/
theorem readNumber_intText {i : ℤ} (hi : i.natAbs < 10 ^ Decimal.digitLimit) {rest : List Char}
    (hrest : EndsNumber rest) :
    readNumber ((Decimal.intText i).toList ++ rest) = .ok (.int i, rest) := by
  have hlength := (Decimal.length_natDigits_le_iff (by decide)).mpr hi
  rw [toList_intText, List.append_assoc, readNumber_of_runs _ (isWhole_natDigits _)
    hrest.isDigit_head hrest.fractionRun hrest.exponentRun]
  rw [numberOf, if_pos (by simp), if_neg (not_lt.mpr hlength), Decimal.asciiValue_natDigits]
  by_cases hneg : i < 0
  · rw [if_pos (decide_eq_true hneg), show -((i.natAbs : ℕ) : ℤ) = i by omega]
    rfl
  · rw [if_neg (by simpa using hneg), show ((i.natAbs : ℕ) : ℤ) = i by omega]
    rfl

/-! ## Binary64 numbers -/

/-- Digits with zeros behind them are those digits scaled. -/
theorem asciiValue_append_zeros (ds : List Char) (k : ℕ) :
    asciiValue (ds ++ List.replicate k '0') = asciiValue ds * 10 ^ k := by
  rw [Decimal.asciiValue_append, Decimal.asciiValue_replicate_zero, List.length_replicate, add_zero]

/-- Zeros in front of digits count for nothing. -/
theorem asciiValue_zeros_append (k : ℕ) (ds : List Char) :
    asciiValue (List.replicate k '0' ++ ds) = asciiValue ds := by
  rw [Decimal.asciiValue_append, Decimal.asciiValue_replicate_zero, zero_mul, zero_add]

/-- A number with a point reads as the digits on both sides of it together. -/
theorem readNumber_point (negative : Bool) {whole fraction rest : List Char}
    (hwhole : IsWhole whole) (hne : fraction ≠ []) (hfraction : ∀ c ∈ fraction, c.isDigit)
    (hrest : EndsNumber rest) :
    readNumber (signOf negative ++ (whole ++ '.' :: (fraction ++ rest))) =
      .ok (.float (Binary64.ofDecimal negative (asciiValue (whole ++ fraction))
        (-fraction.length)), rest) := by
  have hpoint : ∀ c ∈ ('.' :: (fraction ++ rest)).head?, c.isDigit = false := by
    intro c hc
    cases hc
    rfl
  rw [readNumber_of_runs negative hwhole hpoint
    (fractionRun_append hne hfraction hrest.isDigit_head) hrest.exponentRun, numberOf,
    if_neg (by simp [hne]), Option.getD_none, zero_sub]
  rfl

/-- A number with one digit before the point, or without a point, and an exponent reads as its
digits together. -/
theorem readNumber_exponent (negative : Bool) {d : Char} {ds rest : List Char}
    (hds : ∀ c ∈ d :: ds, c.isDigit) (hzero : d ≠ '0') (e : ℤ) (hrest : EndsNumber rest) :
    readNumber (signOf negative ++
        (d :: (if ds.isEmpty then [] else '.' :: ds) ++ 'e' :: Decimal.exponentText e ++ rest)) =
      .ok (.float (Binary64.ofDecimal negative (asciiValue (d :: ds)) (e - ds.length)), rest) := by
  obtain ⟨hd, hds⟩ := List.forall_mem_cons.mp hds
  have hwhole : IsWhole [d] := ⟨by simp, by simpa using hd, .inl (by simpa using hzero)⟩
  have hexponent := exponentRun_exponentText e hrest.isDigit_head
  have hmark : ∀ (m : Char) (cs : List Char), m.isDigit = false →
      ∀ c ∈ (m :: cs).head?, c.isDigit = false := by
    intro m cs hm c hc
    cases hc
    exact hm
  by_cases hne : ds = []
  · subst hne
    have hrun := readNumber_of_runs negative hwhole (hmark 'e' _ rfl)
      (fractionRun_of_head (by simp)) hexponent
    have htext : d :: (if ([] : List Char).isEmpty then [] else ['.']) ++
        'e' :: Decimal.exponentText e ++ rest = [d] ++ 'e' :: (Decimal.exponentText e ++ rest) := by
      simp
    rw [htext, hrun, numberOf, if_neg (by simp)]
    rfl
  · have hrun := readNumber_of_runs negative hwhole (hmark '.' _ rfl)
      (fractionRun_append hne hds (hmark 'e' _ rfl)) hexponent
    have htext : d :: (if ds.isEmpty then [] else '.' :: ds) ++
        'e' :: Decimal.exponentText e ++ rest =
          [d] ++ '.' :: (ds ++ 'e' :: (Decimal.exponentText e ++ rest)) := by
      rw [if_neg (by simpa using hne)]
      simp
    rw [htext, hrun, numberOf, if_neg (by simp)]
    rfl

/-- Digits without a leading zero read as their decimal value, wherever the point stands. -/
theorem readNumber_layout (negative : Bool) {ds : List Char} (hds : ∀ c ∈ ds, c.isDigit)
    (hne : ds ≠ []) (hhead : ds.head? ≠ some '0') (point : ℤ) {rest : List Char}
    (hrest : EndsNumber rest) :
    readNumber (signOf negative ++ (layout ds point ++ rest)) =
      .ok (.float (Binary64.ofDecimal negative (asciiValue ds) (point - ds.length)), rest) := by
  have hzeros : ∀ k, ∀ c ∈ List.replicate k '0', c.isDigit := fun k c hc => by
    rw [List.eq_of_mem_replicate hc]
    rfl
  rw [Decimal.layout.eq_def]
  split
  · split
    · -- zeros behind the point come first
      next hlow =>
      have hfraction : ∀ c ∈ List.replicate (-point).toNat '0' ++ ds, c.isDigit :=
        List.forall_mem_append.mpr ⟨hzeros _, hds⟩
      have htext : '0' :: '.' :: List.replicate (-point).toNat '0' ++ ds ++ rest =
          ['0'] ++ '.' :: (List.replicate (-point).toNat '0' ++ ds ++ rest) := by simp
      have hvalue : asciiValue (['0'] ++ (List.replicate (-point).toNat '0' ++ ds)) =
          asciiValue ds := by
        rw [← List.append_assoc, ← List.replicate_one, List.replicate_append_replicate,
          asciiValue_zeros_append]
      rw [htext, readNumber_point negative isWhole_zero (by simp [hne]) hfraction hrest, hvalue,
        List.length_append, List.length_replicate,
        show (-((-point).toNat + ds.length : ℕ) : ℤ) = point - ds.length by omega]
    · dsimp only
      split
      · -- the point stands behind all digits
        next hlow hwhole =>
        obtain ⟨k, hk⟩ : ∃ k, k = point.toNat - ds.length := ⟨_, rfl⟩
        have hwholeDigits : IsWhole (ds ++ List.replicate k '0') := by
          refine ⟨by simp [hne], List.forall_mem_append.mpr ⟨hds, hzeros k⟩, .inl ?_⟩
          rwa [List.head?_append_of_ne_nil _ hne]
        have htext : ds ++ List.replicate k '0' ++ ['.', '0'] ++ rest =
            ds ++ List.replicate k '0' ++ '.' :: (['0'] ++ rest) := by simp
        have hvalue : asciiValue (ds ++ List.replicate k '0' ++ ['0']) =
            asciiValue ds * 10 ^ (k + 1) := by
          rw [List.append_assoc, ← List.replicate_one, List.replicate_append_replicate,
            asciiValue_append_zeros]
        rw [← hk, htext, readNumber_point negative hwholeDigits (by simp) (by simp) hrest, hvalue,
          List.length_singleton, ← Binary64.ofDecimal_scale negative _ (point - ds.length) (k + 1),
          show (point - ds.length : ℤ) - (k + 1 : ℕ) = -(1 : ℕ) by omega]
      · -- the point stands among the digits
        next hlow hwhole =>
        have htakeNe : ds.take point.toNat ≠ [] := by
          rw [ne_eq, List.take_eq_nil_iff]
          simp only [hne, or_false]
          omega
        have hwholeDigits : IsWhole (ds.take point.toNat) := by
          refine ⟨htakeNe, fun c hc => hds c (List.mem_of_mem_take hc), .inl ?_⟩
          rwa [List.head?_take, if_neg (by omega)]
        have hdropNe : ds.drop point.toNat ≠ [] := by
          rw [ne_eq, List.drop_eq_nil_iff]
          omega
        have hfraction : ∀ c ∈ ds.drop point.toNat, c.isDigit := fun c hc =>
          hds c (List.mem_of_mem_drop hc)
        rw [List.append_assoc, List.cons_append,
          readNumber_point negative hwholeDigits hdropNe hfraction hrest, List.take_append_drop,
          List.length_drop, show (-(ds.length - point.toNat : ℕ) : ℤ) = point - ds.length by omega]
  · -- one digit before the point, and an exponent
    obtain ⟨d, cs, rfl⟩ := List.exists_cons_of_ne_nil hne
    have hzero : d ≠ '0' := by simpa using hhead
    dsimp only
    rw [readNumber_exponent negative hds hzero (point - 1) hrest, List.length_cons,
      show point - 1 - (cs.length : ℤ) = point - (cs.length + 1 : ℕ) by omega]

/-- Digits are their significant ones with zeros behind them. -/
theorem significant_append_zeros (ds : List Char) :
    ∃ k, ds = significant ds ++ List.replicate k '0' := by
  have hzeros : ∀ c ∈ ds.rtakeWhile (· = '0'), c = '0' := by
    intro c hc
    simpa using List.mem_rtakeWhile_imp hc
  refine ⟨(ds.rtakeWhile (· = '0')).length, ?_⟩
  rw [← List.eq_replicate_of_mem hzeros]
  exact List.rdropWhile_append_rtakeWhile.symm

/-- The text of a finite number reads as it. -/
theorem readNumber_rankText (negative : Bool) (rank : Fin Binary64.rankLimit) {rest : List Char}
    (hrest : EndsNumber rest) :
    readNumber (signOf negative ++ (Decimal.rankText rank ++ rest)) =
      .ok (.float (.finite negative rank), rest) := by
  rw [Decimal.rankText]
  split
  · next hzero =>
    have hread := readNumber_point negative isWhole_zero (List.cons_ne_nil '0' []) (by simp) hrest
    have hvalue : asciiValue (['0'] ++ ['0']) = 0 := rfl
    have hnumber : Binary64.finite negative rank = Binary64.zero negative := by
      rw [Binary64.zero]
      exact congrArg _ (Fin.ext hzero)
    rw [show ['0', '.', '0'] ++ rest = ['0'] ++ '.' :: (['0'] ++ rest) from rfl, hread, hvalue,
      Binary64.ofDecimal_zero, hnumber]
  · next hrank =>
    dsimp only
    have hread := Binary64.ofDecimal_shortest negative hrank
    have hdigits : ∀ c ∈ significant (natDigits (Decimal.shortest rank).digits), c.isDigit :=
      fun c hc => Decimal.isDigit_of_mem_natDigits (Decimal.mem_of_mem_significant hc)
    have hzero := Decimal.shortest_digits_ne_zero hrank
    have hne := Decimal.significant_ne_nil hzero
    have hhead := Decimal.head?_natDigits_ne_zero hzero
    have hvalue := Decimal.asciiValue_natDigits (Decimal.shortest rank).digits
    obtain ⟨k, hk⟩ := significant_append_zeros (natDigits (Decimal.shortest rank).digits)
    generalize (Decimal.shortest rank).exponent = e at *
    generalize significant (natDigits (Decimal.shortest rank).digits) = ds at *
    rw [hk, List.head?_append_of_ne_nil _ hne] at hhead
    rw [hk, asciiValue_append_zeros] at hvalue
    rw [readNumber_layout negative hdigits hne hhead _ hrest, hk, List.length_append,
      List.length_replicate, ← Binary64.ofDecimal_scale negative (asciiValue ds) _ k, hvalue,
      show ((ds.length + k : ℕ) + e - ds.length - k : ℤ) = e by push_cast; ring, hread]

/-- Digits are laid out behind a digit. -/
theorem exists_layout_eq_cons {ds : List Char} (hds : ∀ c ∈ ds, c.isDigit) (hne : ds ≠ [])
    (point : ℤ) : ∃ d cs, layout ds point = d :: cs ∧ d.isDigit := by
  obtain ⟨d, cs, rfl⟩ := List.exists_cons_of_ne_nil hne
  have hd := hds d List.mem_cons_self
  rw [Decimal.layout.eq_def]
  split
  · split
    · exact ⟨'0', _, rfl, rfl⟩
    · next hpoint =>
      dsimp only
      split
      · exact ⟨d, _, rfl, hd⟩
      · obtain ⟨n, hn⟩ : ∃ n, point.toNat = n + 1 := ⟨point.toNat - 1, by omega⟩
        rw [hn, List.take_succ_cons]
        exact ⟨d, _, rfl, hd⟩
  · exact ⟨d, _, rfl, hd⟩

/-- The text of a rank begins with a digit. -/
theorem exists_rankText_eq_cons (rank : ℕ) :
    ∃ d cs, Decimal.rankText rank = d :: cs ∧ d.isDigit := by
  rw [Decimal.rankText]
  split
  · exact ⟨'0', _, rfl, rfl⟩
  · next hrank =>
    refine exists_layout_eq_cons (fun c hc => ?_)
      (Decimal.significant_ne_nil (Decimal.shortest_digits_ne_zero hrank)) _
    exact Decimal.isDigit_of_mem_natDigits (Decimal.mem_of_mem_significant hc)

/-- What a finite number is written as. -/
theorem numberForm_finite (negative : Bool) (rank : Fin Binary64.rankLimit) :
    numberForm (.finite negative rank) = signOf negative ++ Decimal.rankText rank := by
  rw [numberForm, Binary64.text, String.toList_ofList]
  · cases negative <;> rfl
  all_goals simp

end ContentGateway.Json
