import Mathlib
import ContentGateway.Proofs.Decimal.Grammar
import ContentGateway.Proofs.Steps
import ContentGateway.Proofs.Text.Points
import ContentGateway.Proofs.Value.Display
import ContentGateway.Query.Clause

/-!
# Literals of filters

A filter knows four sorts of literals: texts in single quotes with no single quote inside, decimal
numbers, and the words for truth values and null. What an operand is written as is one of them
exactly for a text without single quotes, a truth value, a whole number, and a finite binary64
number. Null, NaN, the infinities, lists and objects are written in ways that no filter knows, and
a single quote inside a text ends its literal early.
-/

namespace ContentGateway

def literalWords : List (List Char) := ["true".toList, "false".toList, "null".toList]

/-- A literal of a filter. -/
inductive IsLiteral : List Char → Prop
  | quoted {inner : List Char} (h : '\'' ∉ inner) : IsLiteral ('\'' :: (inner ++ ['\'']))
  | decimal {cs : List Char} (h : Decimal.IsDecimal cs) : IsLiteral cs
  | word {cs : List Char} (h : cs ∈ literalWords) : IsLiteral cs

namespace Value

/-- Whether there is a literal for a value as it is written. -/
def HasLiteral : Value → Prop
  | .text s => '\'' ∉ s.toList
  | .unpaired t => .char '\'' ∉ t.points
  | .bool _ | .int _ => True
  | .float (.finite _ _) => True
  | _ => False

/-- What does not begin with a quote and has a character that no number has is a literal only if it
is one of the words. -/
theorem not_isLiteral {cs : List Char} (hquote : cs.head? ≠ some '\'') {c : Char} (hc : c ∈ cs)
    (hdecimal : Decimal.isDecimalChar c = false) (hword : cs ∉ literalWords) : ¬ IsLiteral cs := by
  intro h
  cases h with
  | quoted => exact hquote rfl
  | decimal h =>
    rw [h.mem c hc] at hdecimal
    cases hdecimal
  | word h => exact hword h

/-- What begins with a bracket is no literal. -/
theorem not_isLiteral_bracket {c : Char} (hc : c ∈ ['[', '\x7b']) (cs : List Char) :
    ¬ IsLiteral (c :: cs) := by
  simp only [List.mem_cons, List.not_mem_nil, or_false] at hc
  have hword : c :: cs ∉ literalWords := by
    rcases hc with rfl | rfl <;> simp [literalWords]
  rcases hc with rfl | rfl <;> exact not_isLiteral (by simp) List.mem_cons_self (by decide) hword

/-- A text in quotes is a literal if it has none inside. -/
theorem isLiteral_text (s : String) :
    IsLiteral ("'" ++ s ++ "'").toList ↔ '\'' ∉ s.toList := by
  have hchars : ("'" ++ s ++ "'").toList = '\'' :: (s.toList ++ ['\'']) := by
    simp [String.toList_append]
  rw [hchars]
  constructor
  · intro h
    generalize hcs : '\'' :: (s.toList ++ ['\'']) = cs at h
    cases h with
    | quoted h =>
      rw [List.cons.injEq, List.append_cancel_right_eq] at hcs
      exact hcs.2 ▸ h
    | decimal h => exact absurd (h.mem '\'' (hcs ▸ List.mem_cons_self)) (by decide)
    | word h =>
      subst hcs
      simp [literalWords] at h
  · exact .quoted

/-- A binary64 number is written as a literal if it is finite. -/
theorem isLiteral_float {x : Binary64} {s : String} (h : (Value.float x).literal = .ok s) :
    IsLiteral s.toList ↔ (Value.float x).HasLiteral := by
  cases x with
  | nan =>
    cases h
    have htext : Binary64.nan.text = "nan" := rfl
    have hchar : 'n' ∈ "nan".toList := by simp
    rw [htext]
    exact iff_of_false (not_isLiteral (by simp) hchar (by decide) (by simp [literalWords])) id
  | infinite negative =>
    cases h
    have hchar : ∀ negative, 'i' ∈ (Binary64.infinite negative).text.toList := by
      intro negative
      cases negative <;> simp [Binary64.text]
    refine iff_of_false (not_isLiteral ?_ (hchar negative) (by decide) ?_) id
    · cases negative <;> simp [Binary64.text]
    · cases negative <;> simp [Binary64.text, literalWords]
  | finite negative rank =>
    refine iff_of_true (.decimal ?_) trivial
    rw [literal, plain] at h
    · split at h
      · rw [eq_of_wholeText h]
        exact Decimal.isDecimal_intText _
      · cases h
        exact Decimal.isDecimal_text negative rank
    all_goals simp

/-- A value of JSON is written as a literal exactly if there is one for it. -/
theorem isLiteral_iff {v : Value} (hv : v.IsJson) {s : String} (h : v.literal = .ok s) :
    IsLiteral s.toList ↔ v.HasLiteral := by
  cases hv with
  | null =>
    cases h
    have hchar : 'N' ∈ "None".toList := by simp
    exact iff_of_false (not_isLiteral (by simp) hchar (by decide) (by simp [literalWords])) id
  | bool b =>
    cases h
    refine iff_of_true (.word ?_) trivial
    cases b <;> simp [literalWords]
  | int hi =>
    rw [literal, plain, display, render] at h
    · rw [eq_of_wholeText h]
      exact iff_of_true (.decimal (Decimal.isDecimal_intText _)) trivial
    all_goals simp
  | float x => exact isLiteral_float h
  | text s =>
    cases h
    exact isLiteral_text s
  | unpaired t =>
    cases h
    rw [isLiteral_text, HasLiteral, Text.Broken.mended, Text.mem_mended (by decide)]
  | list =>
    rw [literal, plain, display, render] at h
    · obtain ⟨shown, -, h⟩ := bind_eq_ok.mp h
      cases h
      rw [String.toList_append, String.toList_append]
      exact iff_of_false (not_isLiteral_bracket (.head _) _) id
    all_goals simp
  | dict =>
    rw [literal, plain, display, render] at h
    · obtain ⟨shown, -, h⟩ := bind_eq_ok.mp h
      cases h
      rw [String.toList_append, String.toList_append]
      exact iff_of_false (not_isLiteral_bracket (.tail _ (.head _)) _) id
    all_goals simp

end Value

end ContentGateway
