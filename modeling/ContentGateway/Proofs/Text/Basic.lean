import Mathlib
import ContentGateway.Text.Basic

/-!
# Laws of texts and their pieces

Trimming leaves a text as it is whose two ends are of another class. Where a text without blanks
stands behind another, blanks are taken off the front of that one and nowhere else. A word with no
blank in it is cut off at the first blank behind it.

Joining parts that hold no separator and cutting at the separator are inverse to each other. A
hexadecimal digit reads as the number that it was written for, in either case.
-/

namespace ContentGateway.Text

/-! ## Blanks -/

/-- Trimming leaves a text as it is that neither begins nor ends in the class. -/
theorem trimBy_eq_self {p : Char → Bool} {cs : List Char} (hhead : ∀ c ∈ cs.head?, p c = false)
    (hlast : ∀ c ∈ cs.getLast?, p c = false) : trimBy p cs = cs := by
  have hkeep : ∀ ds : List Char, (∀ c ∈ ds.head?, p c = false) → ds.dropWhile p = ds := by
    intro ds hds
    cases ds with
    | nil => rfl
    | cons c ds => exact List.dropWhile_cons_of_neg (by simp [hds c rfl])
  rw [trimBy, hkeep cs hhead, hkeep _ (by rwa [List.head?_reverse]), List.reverse_reverse]

/-- A character of another class stops the trimming at the front. -/
theorem mem_dropWhile {p : Char → Bool} {cs : List Char} {c : Char} (hc : c ∈ cs)
    (hp : p c = false) : c ∈ cs.dropWhile p := by
  rw [← List.takeWhile_append_dropWhile (p := p) (l := cs), List.mem_append] at hc
  refine hc.resolve_left fun h => ?_
  rw [List.mem_takeWhile_imp h] at hp
  cases hp

/-- In front of a text without blanks, a text loses the blanks at its own front. -/
theorem strip_append {cs q : List Char} {c : Char} (hc : c ∈ cs) (hblank : isBlank c = false)
    (hq : ∀ d ∈ q, isBlank d = false) (hne : q ≠ []) :
    strip (cs ++ q) = cs.dropWhile isBlank ++ q := by
  have hsome : (cs.dropWhile isBlank).isEmpty = false := by
    rw [List.isEmpty_eq_false_iff]
    exact List.ne_nil_of_mem (mem_dropWhile hc hblank)
  rw [strip, trimBy, List.dropWhile_append, hsome, if_neg Bool.false_ne_true]
  obtain ⟨init, last, rfl⟩ : ∃ init last, q = init ++ [last] :=
    ⟨q.dropLast, q.getLast hne, (List.dropLast_append_getLast hne).symm⟩
  have hlast : ¬ isBlank last := by simp [hq last (by simp)]
  rw [← List.append_assoc, List.reverse_append, List.reverse_singleton, List.singleton_append,
    List.dropWhile_cons_of_neg hlast, List.reverse_cons, List.reverse_reverse]

section Words

variable {word : List Char} (hword : ∀ c ∈ word, isBlank c = false)

include hword

/-- Characters that are not blank are collected. By induction on them. -/
theorem wordsFrom_append (current cs : List Char) :
    wordsFrom current (word ++ cs) = wordsFrom (word.reverse ++ current) cs := by
  induction word generalizing current with
  | nil => rfl
  | cons c word ih =>
    obtain ⟨hc, hword⟩ := List.forall_mem_cons.mp hword
    rw [List.cons_append, wordsFrom, if_neg (by simp [hc]), ih hword, List.reverse_cons,
      List.append_assoc]
    rfl

/-- A text without blanks is one word. -/
theorem words_of_solid (hne : word ≠ []) : words word = [word] := by
  have hcollected := wordsFrom_append hword [] []
  rw [List.append_nil, List.append_nil] at hcollected
  rw [words, hcollected, wordsFrom, if_neg (by simpa using hne), List.reverse_reverse]

/-- A blank ends the word before it. -/
theorem words_append (hne : word ≠ []) {blank : Char} (hblank : isBlank blank) (cs : List Char) :
    words (word ++ blank :: cs) = word :: words cs := by
  rw [words, wordsFrom_append hword, List.append_nil, wordsFrom, if_pos hblank,
    if_neg (by simpa using hne), List.reverse_reverse]
  rfl

end Words

/-! ## Separators -/

variable {separator : Char}

/-- The parts between separators are those of the library. -/
theorem splitAll_eq_splitOn (cs : List Char) : splitAll separator cs = cs.splitOn separator := by
  induction cs with
  | nil => rfl
  | cons c cs ih =>
    rw [List.splitOn_cons_eq_if_modifyHead, ← ih, splitAll]
    by_cases h : c = separator
    · rw [if_pos h, if_pos (beq_iff_eq.mpr h)]
    · rw [if_neg h, if_neg (by simpa using h)]
      cases hparts : splitAll separator cs with
      | nil => exact absurd (ih.symm.trans hparts) (List.splitOn_ne_nil _ _)
      | cons part parts => rfl

/-- Parts without the separator come back when what they were joined to is cut. -/
theorem splitAll_intercalate {parts : List (List Char)} (h : ∀ part ∈ parts, separator ∉ part)
    (hparts : parts ≠ []) : splitAll separator ([separator].intercalate parts) = parts := by
  rw [splitAll_eq_splitOn]
  exact List.splitOn_intercalate separator h hparts

/-- What parts are joined to begins with the first of them. -/
theorem exists_intercalate_cons (between part : List Char) (parts : List (List Char)) :
    ∃ tail, between.intercalate (part :: parts) = part ++ tail := by
  cases parts with
  | nil => exact ⟨[], by simp⟩
  | cons next parts => exact ⟨_, by rw [List.intercalate_cons_cons, List.append_assoc]⟩

/-- What parts are joined to has their characters and those between them. -/
theorem mem_intercalate_cases {c : Char} {between : List Char} {parts : List (List Char)}
    (h : c ∈ between.intercalate parts) : c ∈ between ∨ ∃ part ∈ parts, c ∈ part := by
  induction parts with
  | nil => exact absurd h List.not_mem_nil
  | cons part parts ih =>
    cases parts with
    | nil =>
      rw [List.intercalate_singleton] at h
      exact .inr ⟨part, List.mem_cons_self, h⟩
    | cons next parts =>
      rw [List.intercalate_cons_cons, List.mem_append, List.mem_append] at h
      rcases h with (h | h) | h
      · exact .inr ⟨part, List.mem_cons_self, h⟩
      · exact .inl h
      · refine (ih h).imp id ?_
        rintro ⟨other, hother, hc⟩
        exact ⟨other, List.mem_cons_of_mem _ hother, hc⟩

/-- What parts are joined to has their characters and the separator. -/
theorem mem_intercalate {c : Char} {parts : List (List Char)}
    (h : c ∈ [separator].intercalate parts) : c = separator ∨ ∃ part ∈ parts, c ∈ part :=
  (mem_intercalate_cases h).imp_left List.mem_singleton.mp

/-- Each part stands in what the parts are joined to. -/
theorem infix_intercalate {between part : List Char} {parts : List (List Char)}
    (h : part ∈ parts) : part <:+: between.intercalate parts := by
  induction parts with
  | nil => exact absurd h List.not_mem_nil
  | cons first parts ih =>
    rcases List.mem_cons.mp h with rfl | h
    · obtain ⟨tail, htail⟩ := exists_intercalate_cons between part parts
      rw [htail]
      exact (List.prefix_append part tail).isInfix
    · cases parts with
      | nil => exact absurd h List.not_mem_nil
      | cons next parts =>
        rw [List.intercalate_cons_cons]
        exact (ih h).trans (List.suffix_append _ _).isInfix

/-- A part of a text stands in the text. -/
theorem infix_of_mem_splitOn {cs part : List Char} (h : part ∈ cs.splitOn separator) :
    part <:+: cs := by
  have hjoined : [separator].intercalate (cs.splitOn separator) = cs :=
    List.intercalate_splitOn separator
  exact hjoined ▸ infix_intercalate h

/-- A part of a text has only characters of the text. -/
theorem subset_of_mem_splitOn {cs part : List Char} (h : part ∈ cs.splitOn separator) :
    part ⊆ cs := (infix_of_mem_splitOn h).subset

/-- The first separator is the one behind a part that holds none. -/
theorem splitFirst?_append {before : List Char} (h : separator ∉ before) (behind : List Char) :
    splitFirst? separator (before ++ separator :: behind) = some (before, behind) := by
  induction before with
  | nil => exact if_pos rfl
  | cons c cs ih =>
    rw [List.mem_cons, not_or] at h
    rw [List.cons_append, splitFirst?, if_neg (Ne.symm h.1), ih h.2]
    rfl

/-- What is cut at the first separator is put together by it. -/
theorem eq_of_splitFirst? {cs before behind : List Char}
    (h : splitFirst? separator cs = some (before, behind)) :
    cs = before ++ separator :: behind := by
  induction cs generalizing before with
  | nil => cases h
  | cons c cs ih =>
    rw [splitFirst?] at h
    split at h
    · next hc =>
      cases h
      rw [hc]
      rfl
    · obtain ⟨⟨before, behind⟩, hcut, hparts⟩ := Option.map_eq_some_iff.mp h
      cases hparts
      rw [ih hcut]
      rfl

/-! ## Hexadecimal digits -/

/-- A lower-case digit is read back as its number. -/
theorem hexValue?_hexDigit {n : ℕ} (h : n < 16) : hexValue? (hexDigit n) = some n := by
  interval_cases n <;> rfl

theorem hexValue?_hexDigitUpper {n : ℕ} (h : n < 16) : hexValue? (hexDigitUpper n) = some n := by
  interval_cases n <;> rfl

/-- A number is written with as many digits as are asked for. -/
theorem length_hex (width n : ℕ) : (hex width n).length = width := by
  induction width generalizing n with
  | zero => rfl
  | succ width ih => rw [hex, List.length_append, ih, List.length_singleton]

/-- A character that is no digit is not among the digits of a number. -/
theorem not_mem_hex {c : Char} (hc : hexValue? c = none) (width n : ℕ) : c ∉ hex width n := by
  induction width generalizing n with
  | zero => exact List.not_mem_nil
  | succ width ih =>
    rw [hex, List.mem_append, List.mem_singleton, not_or]
    refine ⟨ih _, ?_⟩
    rintro rfl
    rw [hexValue?_hexDigit (Nat.mod_lt n (by norm_num))] at hc
    cases hc

end ContentGateway.Text
