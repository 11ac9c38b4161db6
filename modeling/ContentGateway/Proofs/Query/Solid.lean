import Mathlib
import ContentGateway.Proofs.Query.Criterion
import ContentGateway.Proofs.Text.Basic

/-!
# Texts that stay in one word

A text is *solid* if it is never cut: wherever it stands outside a quote, all of it goes into the
word that is being read, and no bracket or quote is left open behind it. It is *sheltered* if this
is so inside brackets, where spaces do not cut either. Quotes make any text without a quote solid,
and square brackets and braces a sheltered one.

What a value is written as is solid if no text in the value has a single quote: inside a list or an
object every text stands in single quotes then.
-/

namespace ContentGateway

namespace Criterion

def isBracket (c : Char) : Bool := c = '\'' || opens c || closes c

/-- Whether a text goes whole into the word being read wherever a place is one of these. -/
def StaysWhole (Place : Cut → Prop) (t : List Char) : Prop :=
  ∀ s : Cut, Place s → s.run t = some ([], { s with word := t.reverse ++ s.word })

/-- Whether a text goes whole into the word being read outside quotes. -/
def Solid : List Char → Prop := StaysWhole fun s => s.quoted = false

/-- Whether a text goes whole into the word being read inside brackets, outside quotes. -/
def Sheltered : List Char → Prop := StaysWhole fun s => s.quoted = false ∧ 0 < s.depth

namespace Cut

/-- Outside quotes, a character that is no bracket and separates nothing goes into the word. -/
theorem step_ordinary {s : Cut} {c : Char} (hquoted : s.quoted = false) (hc : isBracket c = false)
    (hspace : 0 < s.depth ∨ c ≠ ' ') : s.step c = some ([], { s with word := c :: s.word }) := by
  obtain ⟨word, depth, quoted⟩ := s
  obtain rfl : quoted = false := hquoted
  simp only [isBracket, Bool.or_eq_false_iff, decide_eq_false_iff_not] at hc
  obtain ⟨⟨hquote, hopens⟩, hcloses⟩ := hc
  unfold step
  rw [if_neg (by simp), if_neg hquote, if_neg (by simp [hopens]), if_neg (by simp [hcloses]),
    if_neg]
  simp only [Bool.and_eq_true, decide_eq_true_eq]
  rintro ⟨rfl, hdepth⟩
  rcases hspace with hspace | hspace
  · exact absurd hdepth (Nat.pos_iff_ne_zero.mp hspace)
  · exact hspace rfl

/-- Inside a quote everything up to the closing one is taken as it is. -/
theorem run_quoted {u : List Char} (h : '\'' ∉ u) (word : Word) (depth : ℕ) :
    (⟨word, depth, true⟩ : Cut).run (u ++ ['\'']) =
      some ([], ⟨'\'' :: (u.reverse ++ word), depth, false⟩) := by
  induction u generalizing word with
  | nil => rfl
  | cons c u ih =>
    rw [List.mem_cons, not_or] at h
    have hstep : (⟨word, depth, true⟩ : Cut).step c = some ([], ⟨c :: word, depth, true⟩) := by
      unfold step
      rw [if_pos rfl, decide_eq_true (Ne.symm h.1)]
    rw [List.cons_append, run, hstep]
    simp only [Option.bind_eq_bind, Option.bind_some, ih h.2, List.nil_append]
    simp

end Cut

/-! ## Putting texts together -/

section StaysWhole

variable {Place : Cut → Prop}

theorem staysWhole_nil : StaysWhole Place [] := fun _ _ => rfl

/-- Where a place stays one whatever the word, texts that stay whole do so together. -/
theorem StaysWhole.append (hplace : ∀ s word, Place s → Place { s with word := word })
    {a b : List Char} (ha : StaysWhole Place a) (hb : StaysWhole Place b) :
    StaysWhole Place (a ++ b) := by
  intro s hs
  have hrun := Cut.run_append_of_run (ha s hs) (hb _ (hplace s (a.reverse ++ s.word) hs))
  rw [hrun]
  simp

/-- A text goes whole into the word if each of its characters does. -/
theorem staysWhole_of_step (hplace : ∀ s word, Place s → Place { s with word := word })
    {t : List Char}
    (h : ∀ c ∈ t, ∀ s, Place s → s.step c = some ([], { s with word := c :: s.word })) :
    StaysWhole Place t := by
  induction t with
  | nil => exact staysWhole_nil
  | cons c t ih =>
    obtain ⟨hc, ht⟩ := List.forall_mem_cons.mp h
    refine StaysWhole.append (a := [c]) hplace (fun s hs => ?_) (ih ht)
    rw [Cut.run, hc s hs]
    rfl

end StaysWhole

/-- What goes whole into a word does so inside brackets. -/
theorem Solid.sheltered {t : List Char} (h : Solid t) : Sheltered t := fun s hs => h s hs.1

/-- Texts that go whole into the word do so one behind the other. -/
theorem Sheltered.append {a b : List Char} (ha : Sheltered a) (hb : Sheltered b) :
    Sheltered (a ++ b) :=
  StaysWhole.append (fun _ _ => id) ha hb

/-- Without brackets, quotes and spaces a text is solid. -/
theorem solid_of_forall {t : List Char} (h : ∀ c ∈ t, isBracket c = false ∧ c ≠ ' ') : Solid t :=
  staysWhole_of_step (fun _ _ => id) fun c hc _ hs =>
    Cut.step_ordinary hs (h c hc).1 (.inr (h c hc).2)

/-- Without brackets and quotes a text is sheltered. -/
theorem sheltered_of_forall {t : List Char} (h : ∀ c ∈ t, isBracket c = false) : Sheltered t :=
  staysWhole_of_step (fun _ _ => id) fun c hc _ hs => Cut.step_ordinary hs.1 (h c hc) (.inl hs.2)

/-- A text in quotes is solid if it has none. -/
theorem solid_quoted {u : List Char} (h : '\'' ∉ u) : Solid ('\'' :: (u ++ ['\''])) := by
  rintro ⟨word, depth, quoted⟩ (rfl : quoted = false)
  have hopen : (⟨word, depth, false⟩ : Cut).step '\'' =
      some ([], ⟨'\'' :: word, depth, true⟩) := rfl
  rw [Cut.run, hopen]
  simp only [Option.bind_eq_bind, Option.bind_some, Cut.run_quoted h, List.nil_append]
  simp

/-- A sheltered text in square brackets or braces is solid. -/
theorem Sheltered.solid_bracketed {t : List Char} (h : Sheltered t) {opening closing : Char}
    (hbrackets : (opening, closing) ∈ [('[', ']'), ('\x7b', '\x7d')]) :
    Solid (opening :: (t ++ [closing])) := by
  rintro ⟨word, depth, quoted⟩ (rfl : quoted = false)
  have hopen : (⟨word, depth, false⟩ : Cut).step opening =
      some ([], ⟨opening :: word, depth + 1, false⟩) := by
    simp only [List.mem_cons, List.not_mem_nil, or_false, Prod.mk.injEq] at hbrackets
    rcases hbrackets with ⟨rfl, rfl⟩ | ⟨rfl, rfl⟩ <;> rfl
  have hclose : ∀ word, (⟨word, depth + 1, false⟩ : Cut).step closing =
      some ([], ⟨closing :: word, depth, false⟩) := by
    simp only [List.mem_cons, List.not_mem_nil, or_false, Prod.mk.injEq] at hbrackets
    rcases hbrackets with ⟨rfl, rfl⟩ | ⟨rfl, rfl⟩ <;> exact fun _ => rfl
  have hlast : (⟨t.reverse ++ opening :: word, depth + 1, false⟩ : Cut).run [closing] =
      some ([], ⟨closing :: (t.reverse ++ opening :: word), depth, false⟩) := by
    rw [Cut.run, hclose]
    rfl
  have hinner : (⟨opening :: word, depth + 1, false⟩ : Cut).run (t ++ [closing]) =
      some ([], ⟨closing :: (t.reverse ++ opening :: word), depth, false⟩) :=
    Cut.run_append_of_run (h _ ⟨rfl, Nat.succ_pos depth⟩) hlast
  rw [Cut.run, hopen]
  simp only [Option.bind_eq_bind, Option.bind_some, hinner]
  simp

/-- Sheltered texts with a sheltered separator between them are sheltered. -/
theorem sheltered_intercalate {sep : String} (hsep : Sheltered sep.toList) {ss : List String}
    (hss : ∀ s ∈ ss, Sheltered s.toList) : Sheltered (sep.intercalate ss).toList := by
  induction ss with
  | nil => exact staysWhole_nil
  | cons s ss ih =>
    obtain ⟨hs, hss⟩ := List.forall_mem_cons.mp hss
    cases ss with
    | nil => exact hs
    | cons t ss =>
      rw [String.intercalate_cons_cons, String.toList_append, String.toList_append]
      exact (hs.append hsep).append (ih hss)

/-! ## Words of one text -/

/-- A text that goes whole into the word is one word. -/
theorem words?_of_solid {t : List Char} (h : Solid t) (hne : t ≠ []) : words? t = some [t] := by
  refine words?_eq_some.mpr ⟨[], _, h _ rfl, rfl, ?_⟩
  have hword : (t.reverse ++ []).isEmpty = false := by simpa using hne
  rw [Cut.ended, Cut.start, hword]
  simp

/-- A sheltered text in parentheses is a word. -/
theorem words?_group {t : List Char} (h : Sheltered t) :
    words? ('(' :: (t ++ [')'])) = some ['(' :: (t ++ [')'])] := by
  have hopen : Cut.start.run ['('] = some ([], ⟨['('], 1, false⟩) := rfl
  have hclose : (⟨t.reverse ++ ['('], 1, false⟩ : Cut).run [')'] =
      some ([(')' :: (t.reverse ++ ['('])).reverse], Cut.start) := by
    simp [Cut.run, Cut.step, opens, closes]
  have hrun := Cut.run_append_of_run hopen
    (Cut.run_append_of_run (h ⟨['('], 1, false⟩ ⟨rfl, Nat.one_pos⟩) hclose)
  refine words?_eq_some.mpr ⟨_, _, hrun, rfl, ?_⟩
  simp [Cut.ended, Cut.start]

/-- Behind a word that is no connective, a sheltered text in parentheses belongs to the word. -/
theorem words?_call {name t : List Char} (hname : Solid name) (hne : name ≠ [])
    (hword : name ∉ connectives) (hhead : name.head? ≠ some '(') (h : Sheltered t) :
    words? (name ++ '(' :: (t ++ [')'])) = some [name ++ '(' :: (t ++ [')'])] := by
  have hfront : Cut.start.run name = some ([], ⟨name.reverse, 0, false⟩) := by
    rw [hname Cut.start rfl, Cut.start, List.append_nil]
  have hopen : (⟨name.reverse, 0, false⟩ : Cut).run ['('] =
      some ([], ⟨'(' :: name.reverse, 1, false⟩) := by
    simp [Cut.run, Cut.step, opens, hword]
  have hlast : (t.reverse ++ '(' :: name.reverse).getLast? = name.head? := by
    obtain ⟨c, cs, rfl⟩ := List.exists_cons_of_ne_nil hne
    rw [List.reverse_cons, ← List.cons_append, ← List.append_assoc, List.getLast?_concat,
      List.head?_cons]
  have hclose : (⟨t.reverse ++ '(' :: name.reverse, 1, false⟩ : Cut).run [')'] =
      some ([], ⟨')' :: (t.reverse ++ '(' :: name.reverse), 0, false⟩) := by
    simp [Cut.run, Cut.step, opens, closes, hlast, hhead]
  have hrun := Cut.run_append_of_run hfront (Cut.run_append_of_run hopen
    (Cut.run_append_of_run (h ⟨'(' :: name.reverse, 1, false⟩ ⟨rfl, Nat.one_pos⟩) hclose))
  refine words?_eq_some.mpr ⟨_, _, hrun, rfl, ?_⟩
  simp [Cut.ended]

end Criterion

/-! ## Values -/

/-- A value without a single quote in any of its texts, made of the kinds of JSON. -/
inductive Value.IsQuoteFree : Value → Prop
  | null : IsQuoteFree .null
  | bool (b : Bool) : IsQuoteFree (.bool b)
  | int (i : ℤ) : IsQuoteFree (.int i)
  | float (x : Binary64) : IsQuoteFree (.float x)
  | text {s : String} (h : '\'' ∉ s.toList) : IsQuoteFree (.text s)
  | list {items : List Value} (h : ∀ v ∈ items, IsQuoteFree v) : IsQuoteFree (.list items)
  | dict {fields : Fields} (hnames : ∀ field ∈ fields, '\'' ∉ field.1.toList)
      (h : ∀ field ∈ fields, IsQuoteFree field.2) : IsQuoteFree (.dict fields)

namespace Criterion

/-- A character of numbers is neither a bracket nor a blank. -/
theorem isBracket_of_isNumeral {c : Char} (h : Decimal.isNumeral c) :
    isBracket c = false ∧ c ≠ ' ' := by
  constructor
  · rw [← Bool.not_eq_true]
    intro hc
    simp only [isBracket, opens, closes, Bool.or_eq_true, decide_eq_true_eq] at hc
    rcases hc with (rfl | (rfl | rfl) | rfl) | (rfl | rfl) | rfl <;> exact absurd h (by decide)
  · rintro rfl
    exact absurd h (by decide)

/-- A number goes whole into the word. -/
theorem solid_of_isNumeral {t : List Char} (h : Decimal.IsNumeral t) : Solid t :=
  solid_of_forall fun c hc => isBracket_of_isNumeral (h.mem c hc)

/-- In single quotes no character but the quote itself is shown by one. -/
theorem quote_not_mem_quotedChar {c : Char} (h : c ≠ '\'') : '\'' ∉ Text.quotedChar '\'' c := by
  unfold Text.quotedChar
  split_ifs with hescaped
  · have hc : c = '\\' := (by simpa using hescaped : c = '\'' ∨ c = '\\').resolve_left h
    simp [hc]
  · simp
  · simp
  · simp
  · simpa using h.symm
  · unfold Text.numericEscape
    split_ifs <;> simp [Text.not_mem_hex (c := '\'') rfl]

/-- The quoted form of a text without single quotes is solid. -/
theorem solid_quotedText {s : String} (h : '\'' ∉ s.toList) : Solid (Text.quoted s).toList := by
  have hquote : Text.quoteFor s.toList = '\'' := by
    unfold Text.quoteFor
    rw [if_neg]
    simp [h]
  rw [Text.quoted, String.toList_ofList, Text.quotedChars, hquote]
  refine solid_quoted ?_
  rw [List.mem_flatMap]
  rintro ⟨c, hc, hmem⟩
  refine quote_not_mem_quotedChar ?_ hmem
  rintro rfl
  exact h hc

/-- Inside brackets, items with commas between them go whole into the word. -/
theorem sheltered_commaSeparated {ss : List String} (h : ∀ s ∈ ss, Sheltered s.toList) :
    Sheltered (commaSeparated ss).toList :=
  sheltered_intercalate (sheltered_of_forall (by simp [isBracket, opens, closes])) h

end Criterion

namespace Value

open Criterion

/-- What holds of the text of each item holds of the texts of the items. -/
theorem forall_mem_renderItems {P : String → Prop} {items : List Value}
    (h : ∀ v ∈ items, ∀ s, v.render .quoted = .ok s → P s) {ss : List String}
    (hss : renderItems items = .ok ss) : ∀ s ∈ ss, P s := by
  induction items generalizing ss with
  | nil =>
    rw [renderItems] at hss
    cases hss
    exact List.forall_mem_nil _
  | cons v items ih =>
    rw [renderItems] at hss
    obtain ⟨hv, hitems⟩ := List.forall_mem_cons.mp h
    obtain ⟨s, hs, hss⟩ := bind_eq_ok.mp hss
    obtain ⟨rest, hrest, hss⟩ := bind_eq_ok.mp hss
    cases hss
    exact List.forall_mem_cons.mpr ⟨hv s hs, ih hitems hrest⟩

/-- What holds of each name with the text of its value holds of the texts of the fields. -/
theorem forall_mem_renderFields {P : String → Prop} {fields : Fields}
    (h : ∀ field ∈ fields, ∀ s, field.2.render .quoted = .ok s →
      P (Text.quoted field.1 ++ ": " ++ s)) {ss : List String}
    (hss : renderFields fields = .ok ss) : ∀ s ∈ ss, P s := by
  induction fields generalizing ss with
  | nil =>
    rw [renderFields] at hss
    cases hss
    exact List.forall_mem_nil _
  | cons field fields ih =>
    rw [renderFields] at hss
    obtain ⟨hfield, hfields⟩ := List.forall_mem_cons.mp h
    obtain ⟨s, hs, hss⟩ := bind_eq_ok.mp hss
    obtain ⟨rest, hrest, hss⟩ := bind_eq_ok.mp hss
    cases hss
    exact List.forall_mem_cons.mpr ⟨hfield s hs, ih hfields hrest⟩

/-- A value without single quotes is shown solid, its texts quoted. -/
theorem IsQuoteFree.solid_quoted {v : Value} (hv : v.IsQuoteFree) :
    ∀ s, v.render .quoted = .ok s → Solid s.toList := by
  induction hv with
  | null =>
    intro s hs
    rw [render] at hs
    cases hs
    exact solid_of_forall (by simp [isBracket, opens, closes])
  | bool b =>
    intro s hs
    rw [render] at hs
    cases hs
    cases b <;> exact solid_of_forall (by simp [isBracket, opens, closes])
  | int i =>
    intro s hs
    rw [render] at hs
    rw [eq_of_wholeText hs]
    exact solid_of_isNumeral (Decimal.isNumeral_intText i)
  | float x =>
    intro s hs
    rw [render] at hs
    cases hs
    exact solid_of_isNumeral (Decimal.isNumeral_text x)
  | text h =>
    intro s hs
    rw [render] at hs
    cases hs
    exact solid_quotedText h
  | list _ ih =>
    intro s hs
    rw [render] at hs
    obtain ⟨ss, hss, hs⟩ := bind_eq_ok.mp hs
    cases hs
    have hitems : ∀ t ∈ ss, Sheltered t.toList :=
      forall_mem_renderItems (fun v hv t ht => (ih v hv t ht).sheltered) hss
    simpa [String.toList_append] using
      (sheltered_commaSeparated hitems).solid_bracketed (.head _)
  | dict hnames _ ih =>
    intro s hs
    rw [render] at hs
    obtain ⟨ss, hss, hs⟩ := bind_eq_ok.mp hs
    cases hs
    have hfields : ∀ t ∈ ss, Sheltered t.toList := by
      refine forall_mem_renderFields (fun field hfield t ht => ?_) hss
      rw [String.toList_append, String.toList_append]
      have hcolon : Sheltered ": ".toList :=
        sheltered_of_forall (by simp [isBracket, opens, closes])
      exact ((solid_quotedText (hnames field hfield)).sheltered.append hcolon).append
        (ih field hfield t ht).sheltered
    simpa [String.toList_append] using
      (sheltered_commaSeparated hfields).solid_bracketed (.tail _ (.head _))

/-- The literal of a value without single quotes is solid. -/
theorem IsQuoteFree.solid_literal {v : Value} (hv : v.IsQuoteFree) {s : String}
    (hs : v.literal = .ok s) : Solid s.toList := by
  cases hv with
  | null => exact IsQuoteFree.null.solid_quoted s hs
  | bool b =>
    cases hs
    cases b <;> exact solid_of_forall (by simp [isBracket, opens, closes])
  | int i => exact solid_of_isNumeral (isNumeral_plain (v := .int i) trivial hs)
  | float x => exact solid_of_isNumeral (isNumeral_plain (v := .float x) trivial hs)
  | text h =>
    cases hs
    simpa [String.toList_append] using Criterion.solid_quoted h
  | list h =>
    -- a list and an object are written as they are shown, whatever the style
    refine (IsQuoteFree.list h).solid_quoted s ?_
    rw [literal, plain, display, render] at hs
    · rw [render]
      exact hs
    all_goals simp
  | dict hnames h =>
    refine (IsQuoteFree.dict hnames h).solid_quoted s ?_
    rw [literal, plain, display, render] at hs
    · rw [render]
      exact hs
    all_goals simp

end Value

end ContentGateway
