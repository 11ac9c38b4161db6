import Mathlib
import ContentGateway.Json.Printer
import ContentGateway.Json.Reader
import ContentGateway.Proofs.Text.Basic
import ContentGateway.Proofs.Text.Points

/-!
# Reading a quoted text

Each point of a quoted text stands for itself or is escaped, by a letter or by the hexadecimal
digits of its number; beyond the basic plane two numbers make up one character. Whatever way each
point is written in, as long as it reads as that point, the text reads back.

An escape by number is read only if the text goes on behind it, so every form is read in front of
something, if only the closing quote. And the first half of a pair is read as a point of its own
only in front of what is not the second half. In a text without pairs each form keeps that from the
one before it: no form is read as a second half but the one of a second half.
-/

namespace ContentGateway.Json

/-- Whether a form at the front of a text is read as a point. -/
structure ReadsAs (form : List Char) (p : Text.Point) : Prop where
  ne_nil : form ≠ []
  read : ∀ quote steps rest, rest ≠ [] → (p.isHigh → readLowHalf rest = .ok none) →
    readText quote (steps + 1) (form ++ rest) = do
      let (more, rest) ← readText quote steps rest
      return (p :: more, rest)
  apart : p.isLow = false → ∀ rest, rest ≠ [] → readLowHalf (form ++ rest) = .ok none

/-! ## Hexadecimal digits -/

/-- Four hexadecimal digits stand for their number. -/
theorem readQuad_hex {n : ℕ} (hn : n < 0x10000) {rest : List Char} (hrest : rest ≠ []) :
    readQuad (Text.hex 4 n ++ rest) = .ok (n, rest) := by
  obtain ⟨e, rest, rfl⟩ := List.exists_cons_of_ne_nil hrest
  have hdigit : ∀ m, Text.hexValue? (Text.hexDigit (m % 16)) = some (m % 16) := fun m =>
    Text.hexValue?_hexDigit (Nat.mod_lt m (by norm_num))
  have hquad : hexQuad? (Text.hexDigit (n / 16 / 16 / 16 % 16)) (Text.hexDigit (n / 16 / 16 % 16))
      (Text.hexDigit (n / 16 % 16)) (Text.hexDigit (n % 16)) = some n := by
    simp only [hexQuad?, hdigit, Option.bind_eq_bind, Option.bind_some, Option.pure_def,
      Option.some.injEq]
    omega
  show readQuad (Text.hexDigit (n / 16 / 16 / 16 % 16) :: Text.hexDigit (n / 16 / 16 % 16) ::
    Text.hexDigit (n / 16 % 16) :: Text.hexDigit (n % 16) :: e :: rest) = _
  rw [readQuad, hquad]

/-! ## Characters -/

/-- The number of a character is none of those set aside for surrogate pairs. -/
theorem toNat_not_surrogate (c : Char) :
    c.toNat < 0xd800 ∨ 0xe000 ≤ c.toNat ∧ c.toNat < 0x110000 := by
  have hvalid := c.valid
  rcases hvalid with h | ⟨h, h'⟩
  · exact .inl h
  · right
    exact ⟨Nat.lt_of_succ_le h, h'⟩

/-- What does not begin with a backslash is no second half. -/
theorem readLowHalf_of_ne {c : Char} (hc : c ≠ '\\') (rest : List Char) :
    readLowHalf (c :: rest) = .ok none := by
  rw [readLowHalf.eq_def]
  split
  · next heq => exact absurd (List.cons.inj heq).1 hc
  · rfl

/-- An escape by a letter is no second half. -/
theorem readLowHalf_letter {letter : Char} (hletter : letter ≠ 'u') (rest : List Char) :
    readLowHalf ('\\' :: letter :: rest) = .ok none := by
  rw [readLowHalf.eq_def]
  split
  · next heq => exact absurd (List.cons.inj (List.cons.inj heq).2).1 hletter
  · rfl

/-- An escape by number is a second half if the number is one of a second half. -/
theorem readLowHalf_unicodeEscape {n : ℕ} (hn : n < 0x10000) {rest : List Char}
    (hrest : rest ≠ []) :
    readLowHalf (unicodeEscape n ++ rest) =
      .ok (if 0xdc00 ≤ n && n < 0xe000 then some (n, rest) else none) := by
  have hlength : ¬ (Text.hex 4 n ++ rest).length ≤ 4 := by
    have := List.length_pos_iff.mpr hrest
    rw [List.length_append, Text.length_hex]
    omega
  show (if (Text.hex 4 n ++ rest).length ≤ 4 then _ else readQuad (Text.hex 4 n ++ rest) >>= _) = _
  rw [if_neg hlength, readQuad_hex hn hrest]
  rfl

/-- A character that needs no escape stands for itself. -/
theorem readsAs_self {c : Char} (hquote : c ≠ '"') (hslash : c ≠ '\\') (h : 0x20 ≤ c.toNat) :
    ReadsAs [c] (.char c) where
  ne_nil := List.cons_ne_nil _ _
  read quote steps rest _ _ := by
    rw [List.singleton_append, readText, if_neg hquote, if_neg hslash, if_neg (not_lt.mpr h)]
  apart _ rest _ := readLowHalf_of_ne hslash rest

/-- An escape reads as a point if what is behind the backslash does. -/
theorem read_escape {form : List Char} {p : Text.Point} {quote : ℕ} {rest : List Char}
    (h : readEscape quote (form ++ rest) = .ok (p, rest)) (steps : ℕ) :
    readText quote (steps + 1) ('\\' :: form ++ rest) = do
      let (more, rest) ← readText quote steps rest
      return (p :: more, rest) := by
  rw [List.cons_append, readText, if_neg (by decide), if_pos rfl, h]
  rfl

/-- An escape by a letter reads as the character of the letter. -/
theorem readsAs_letter {letter c : Char} (hletter : letter ≠ 'u')
    (h : ∀ quote rest, readEscape quote (letter :: rest) = .ok (.char c, rest)) :
    ReadsAs ['\\', letter] (.char c) where
  ne_nil := List.cons_ne_nil _ _
  read quote steps rest _ _ := read_escape (h quote rest) steps
  apart _ rest _ := readLowHalf_letter hletter rest

/-- A number of the basic plane reads as its point. -/
theorem readsAs_number {n : ℕ} (hn : n < 0x10000) :
    ReadsAs (unicodeEscape n) (.ofNat n) where
  ne_nil := List.cons_ne_nil _ _
  read quote steps rest hrest hhigh := by
    refine read_escape ?_ steps
    show readNumbered (Text.hex 4 n ++ rest) = _
    unfold readNumbered
    rw [readQuad_hex hn hrest]
    show (if 0xd800 ≤ n && n < 0xdc00 then readLowHalf rest >>= _ else _) = _
    split
    · next hhalf =>
      simp only [Bool.and_eq_true, decide_eq_true_eq] at hhalf
      have hpoint : (Text.Point.ofNat n).isHigh := by
        rw [Text.Point.ofNat, dif_pos (by omega)]
        simp only [Text.Point.isHigh, decide_eq_true_eq]
        omega
      rw [hhigh hpoint]
      rfl
    · rfl
  apart hlow rest hrest := by
    rw [readLowHalf_unicodeEscape hn hrest, if_neg]
    simp only [Bool.and_eq_true, decide_eq_true_eq, not_and, not_lt]
    intro hle
    by_contra hlt
    rw [Text.Point.ofNat, dif_pos (by omega)] at hlow
    simp only [Text.Point.isLow, decide_eq_false_iff_not] at hlow
    omega

/-- A character of the basic plane reads from its number. -/
theorem readsAs_unicodeEscape {c : Char} (hc : c.toNat < 0x10000) :
    ReadsAs (unicodeEscape c.toNat) (.char c) := by
  have hpoint : Text.Point.ofNat c.toNat = .char c := by
    have := toNat_not_surrogate c
    rw [Text.Point.ofNat, dif_neg (by omega), Char.ofNat_toNat]
  exact hpoint ▸ readsAs_number hc

/-- A half without the other one reads from its number. -/
theorem readsAs_half (n : Fin 0x800) : ReadsAs (unicodeEscape (0xd800 + n.val)) (.half n) := by
  have hn := n.isLt
  have hpoint : Text.Point.ofNat (0xd800 + n.val) = .half n := by
    rw [Text.Point.ofNat, dif_pos (by omega), Text.Point.half.injEq, Fin.ext_iff]
    exact Nat.add_sub_cancel_left _ _
  exact hpoint ▸ readsAs_number (by omega)

/-- A character beyond the basic plane reads from the two halves of its surrogate pair. -/
theorem readsAs_pair {c : Char} (hc : 0x10000 ≤ c.toNat) :
    ReadsAs (unicodeEscape (0xd800 + (c.toNat - 0x10000) / 0x400) ++
      unicodeEscape (0xdc00 + (c.toNat - 0x10000) % 0x400)) (.char c) := by
  have hlimit : c.toNat < 0x110000 := by
    have := toNat_not_surrogate c
    omega
  obtain ⟨high, hhigh⟩ : ∃ high, high = 0xd800 + (c.toNat - 0x10000) / 0x400 := ⟨_, rfl⟩
  obtain ⟨low, hlow⟩ : ∃ low, low = 0xdc00 + (c.toNat - 0x10000) % 0x400 := ⟨_, rfl⟩
  have hnumber : 0x10000 + (high - 0xd800) * 0x400 + (low - 0xdc00) = c.toNat := by omega
  have hlowNe : ∀ rest, unicodeEscape low ++ rest ≠ [] := fun _ => List.cons_ne_nil _ _
  rw [← hhigh, ← hlow]
  refine ⟨List.cons_ne_nil _ _, fun quote steps rest hrest _ => ?_, fun _ rest hrest => ?_⟩
  · show readText quote (steps + 1)
      ('\\' :: ('u' :: Text.hex 4 high ++ unicodeEscape low) ++ rest) = _
    refine read_escape ?_ steps
    show readNumbered (Text.hex 4 high ++ unicodeEscape low ++ rest) = _
    rw [List.append_assoc]
    unfold readNumbered
    rw [readQuad_hex (by omega) (hlowNe rest)]
    show (if 0xd800 ≤ high && high < 0xdc00 then _ else _) = _
    rw [if_pos (by simp only [Bool.and_eq_true, decide_eq_true_eq]; omega)]
    show (readLowHalf (unicodeEscape low ++ rest) >>= _) = _
    rw [readLowHalf_unicodeEscape (by omega) hrest,
      if_pos (by simp only [Bool.and_eq_true, decide_eq_true_eq]; omega)]
    show Except.ok (Text.Point.char (Char.ofNat
      (0x10000 + (high - 0xd800) * 0x400 + (low - 0xdc00))), rest) = _
    rw [hnumber, Char.ofNat_toNat]
  · rw [List.append_assoc, readLowHalf_unicodeEscape (by omega) (hlowNe rest), if_neg]
    simp only [Bool.and_eq_true, decide_eq_true_eq]
    omega

/-- A character is written in a form that reads as it. -/
theorem readsAs_textChar (c : Char) : ReadsAs (textChar c) (.char c) := by
  have hcode : ∀ {n : ℕ}, c.toNat = n → c = Char.ofNat n := fun h => by
    rw [← h, Char.ofNat_toNat]
  unfold textChar
  dsimp only
  split_ifs with hself hplain hnewline hreturn htab hback hfeed hbasic
  · simp only [Bool.or_eq_true, decide_eq_true_eq] at hself
    refine readsAs_letter ?_ fun quote rest => ?_
    · rcases hself with rfl | rfl <;> decide
    · rw [readEscape, if_pos]
      simp only [Bool.or_eq_true, decide_eq_true_eq]
      exact .inl hself
  · simp only [Bool.or_eq_true, decide_eq_true_eq, not_or] at hself
    simp only [Bool.and_eq_true, decide_eq_true_eq] at hplain
    exact readsAs_self hself.1 hself.2 hplain.1
  · exact readsAs_letter (by decide) fun quote rest => hnewline ▸ rfl
  · exact readsAs_letter (by decide) fun quote rest => hreturn ▸ rfl
  · exact readsAs_letter (by decide) fun quote rest => htab ▸ rfl
  · exact readsAs_letter (by decide) fun quote rest => hcode hback ▸ rfl
  · exact readsAs_letter (by decide) fun quote rest => hcode hfeed ▸ rfl
  · exact readsAs_unicodeEscape hbasic
  · exact readsAs_pair (not_lt.mp hbasic)

/-- A point is written in a form that reads as it. -/
theorem readsAs_pointForm (p : Text.Point) : ReadsAs (pointForm p) p := by
  cases p with
  | char c => exact readsAs_textChar c
  | half n => exact readsAs_half n

/-- A character of the form of another one is that character or has an escape of its own. -/
theorem not_mem_textChar {c d : Char} (hne : d ≠ c) (hd : Text.hexValue? d = none)
    (hescape : d ∉ ['\\', 'n', 'r', 't', 'b', 'f', 'u']) : d ∉ textChar c := by
  simp only [List.mem_cons, List.not_mem_nil, or_false, not_or] at hescape
  unfold textChar
  dsimp only
  split_ifs <;> simp [unicodeEscape, Text.not_mem_hex hd, hne, hescape]

/-! ## Texts -/

section Forms

variable {form : Text.Point → List Char} (hform : ∀ p, ReadsAs (form p) p)

include hform

/-- The forms of points are no shorter than the points are many. -/
theorem length_le_flatMap (ps : List Text.Point) : ps.length ≤ (ps.flatMap form).length := by
  induction ps with
  | nil => exact Nat.zero_le _
  | cons p ps ih =>
    have := List.length_pos_iff.mpr (hform p).ne_nil
    rw [List.flatMap_cons, List.length_append, List.length_cons]
    omega

/-- Behind the first half of a pair, the forms of what is not the second one are no second half. -/
theorem readLowHalf_forms {p : Text.Point} {ps : List Text.Point}
    (hpairs : Text.hasPair (p :: ps) = false) (hp : p.isHigh) (rest : List Char) :
    readLowHalf (ps.flatMap form ++ '"' :: rest) = .ok none := by
  cases ps with
  | nil => exact readLowHalf_of_ne (by decide) rest
  | cons q ps =>
    have hq : q.isLow = false := by
      rw [Text.hasPair, Bool.or_eq_false_iff, hp, Bool.true_and] at hpairs
      exact hpairs.1
    rw [List.flatMap_cons, List.append_assoc]
    exact (hform q).apart hq _ (by simp)

/-- The points up to the closing quote, one step for each. -/
theorem readText_forms (quote : ℕ) {ps : List Text.Point} (hpairs : Text.hasPair ps = false)
    (rest : List Char) {steps : ℕ} (hsteps : ps.length < steps) :
    readText quote steps (ps.flatMap form ++ '"' :: rest) = .ok (ps, rest) := by
  induction ps generalizing steps with
  | nil =>
    obtain ⟨steps, rfl⟩ := Nat.exists_eq_add_of_lt hsteps
    rfl
  | cons p ps ih =>
    have hbehind : Text.hasPair ps = false := by
      cases ps with
      | nil => rfl
      | cons q ps =>
        rw [Text.hasPair, Bool.or_eq_false_iff] at hpairs
        exact hpairs.2
    rw [List.length_cons] at hsteps
    obtain ⟨steps, rfl⟩ : ∃ k, steps = k + 1 := ⟨steps - 1, by omega⟩
    rw [List.flatMap_cons, List.append_assoc,
      (hform p).read _ _ _ (by simp) (fun hp => readLowHalf_forms hform hpairs hp rest),
      ih hbehind (by omega)]
    rfl

/-- A text of forms reads back, and what is behind its closing quote is left. -/
theorem readQuoted_forms {ps : List Text.Point} (hpairs : Text.hasPair ps = false)
    (rest : List Char) : readQuoted (ps.flatMap form ++ '"' :: rest) = .ok (ps, rest) := by
  have hlength := length_le_flatMap hform ps
  unfold readQuoted
  apply readText_forms hform _ hpairs
  rw [List.length_append, List.length_cons]
  omega

end Forms

/-- How points are written where characters have forms of their own. -/
def pointFormBy (form : Char → List Char) : Text.Point → List Char
  | .char c => form c
  | .half n => pointForm (.half n)

/-- A string of forms reads back as its characters. -/
theorem readQuoted_chars {form : Char → List Char} (hform : ∀ c, ReadsAs (form c) (.char c))
    (cs rest : List Char) :
    readQuoted (cs.flatMap form ++ '"' :: rest) = .ok (Text.points cs, rest) := by
  have hreads : ∀ p, ReadsAs (pointFormBy form p) p := by
    intro p
    cases p with
    | char c => exact hform c
    | half n => exact readsAs_half n
  have hsame : (Text.points cs).flatMap (pointFormBy form) = cs.flatMap form := by
    rw [Text.points, List.flatMap_map]
    rfl
  rw [← hsame]
  exact readQuoted_forms hreads (Text.hasPair_points cs) rest

end ContentGateway.Json
