import Mathlib
import ContentGateway.Proofs.Steps
import ContentGateway.Proofs.Value.Display
import ContentGateway.Query.Clause

/-!
# Where an operand ends

Space, comma, parentheses and the single quote are the *marks* of a filter text. A word has none, so
it ends at the next mark; a text without single quotes ends at the next quote. What is written for a
part is *delimited* if any text that goes on with a mark behind it, or not at all, determines the
part and where it ends. A list of delimited parts with a separator between them is determined as
well, once what closes the list can be taken neither for the separator nor for a part.
-/

namespace ContentGateway

/-- A character that separates the parts of a filter text. -/
def isMark (c : Char) : Bool := c = ' ' || c = ',' || c = '(' || c = ')' || c = '\''

/-- Whether a text has no mark. -/
def IsWord (cs : List Char) : Prop := ∀ c ∈ cs, isMark c = false

/-- A text is a word if no character of it is a mark. -/
theorem isWord_of_all {l : List Char} (h : (l.all fun c => !isMark c) = true) : IsWord l :=
  fun c hc => by simpa using List.all_eq_true.mp h c hc

/-- Whether a text is empty or begins with a mark. -/
def BeginsMarked (cs : List Char) : Prop := ∀ c ∈ cs.head?, isMark c

theorem beginsMarked_nil : BeginsMarked [] := fun _ h => nomatch h

/-- A text that begins with a mark does so. -/
theorem beginsMarked_cons {c : Char} (h : isMark c) (cs : List Char) : BeginsMarked (c :: cs) := by
  intro d hd
  rw [← Option.some.inj hd]
  exact h

/-! ## Cutting a text -/

/-- A run of characters of one class ends where the class does. -/
theorem append_inj_of_class {p : Char → Bool} {u v k l : List Char} (hu : ∀ c ∈ u, p c)
    (hv : ∀ c ∈ v, p c) (hk : ∀ c ∈ k.head?, p c = false) (hl : ∀ c ∈ l.head?, p c = false)
    (h : u ++ k = v ++ l) : u = v ∧ k = l := by
  have hrun : ∀ w m : List Char, (∀ c ∈ w, p c) → (∀ c ∈ m.head?, p c = false) →
      (w ++ m).takeWhile p = w := by
    intro w m hw hm
    rw [List.takeWhile_append_of_pos hw]
    cases m with
    | nil => rw [List.takeWhile_nil, List.append_nil]
    | cons c m =>
      rw [List.takeWhile_cons_of_neg (by simp [hm c rfl]), List.append_nil]
  obtain rfl : u = v := by rw [← hrun u k hu hk, h, hrun v l hv hl]
  exact ⟨rfl, List.append_cancel_left h⟩

/-- A word ends at the next mark. -/
theorem word_append_inj {u v k l : List Char} (hu : IsWord u) (hv : IsWord v)
    (hk : BeginsMarked k) (hl : BeginsMarked l) (h : u ++ k = v ++ l) : u = v ∧ k = l := by
  refine append_inj_of_class (p := fun c => !isMark c) ?_ ?_ ?_ ?_ h
  · exact fun c hc => by simp [hu c hc]
  · exact fun c hc => by simp [hv c hc]
  · exact fun c hc => by simp [hk c hc]
  · exact fun c hc => by simp [hl c hc]

/-- A text without single quotes ends at the next one. -/
theorem quoted_append_inj {u v k l : List Char} (hu : '\'' ∉ u) (hv : '\'' ∉ v)
    (h : u ++ '\'' :: k = v ++ '\'' :: l) : u = v ∧ k = l := by
  have hclass : ∀ w : List Char, '\'' ∉ w → ∀ c ∈ w, (c != '\'') = true := by
    intro w hw c hc
    rw [bne_iff_ne]
    rintro rfl
    exact hw hc
  obtain ⟨huv, hkl⟩ := append_inj_of_class (hclass u hu) (hclass v hv)
    (k := '\'' :: k) (l := '\'' :: l) (by simp) (by simp) h
  exact ⟨huv, List.tail_eq_of_cons_eq hkl⟩

/-- Whether what is written for a part is determined, up to sameness, by any text in which a mark or
nothing follows it, and so is what follows. -/
def Delimited {α : Type} (Fit : α → Prop) (write : α → Except Fault String)
    (Same : α → α → Prop) : Prop :=
  ∀ ⦃a b⦄, Fit a → Fit b → ∀ ⦃s t⦄, write a = .ok s → write b = .ok t →
    ∀ ⦃k l⦄, BeginsMarked k → BeginsMarked l → s.toList ++ k = t.toList ++ l → Same a b ∧ k = l

/-! ## Operands -/

/-- Whether a value is a text without single quotes. -/
def Value.IsQuotable : Value → Prop
  | .text s => '\'' ∉ s.toList
  | _ => False

def Value.IsNumeric : Value → Prop
  | .int _ | .float _ => True
  | _ => False

/-- Whether a value is written without quotes: a truth value or a number. -/
def Value.IsUnquoted : Value → Prop
  | .bool _ | .int _ | .float _ => True
  | _ => False

/-- Whether a value can be written as a literal that has an end. -/
def Value.IsScalar (v : Value) : Prop := v.IsQuotable ∨ v.IsUnquoted

/-- Whether two operands are the same as far as a filter text can tell: equal, or two numbers that
are written alike. -/
def Value.SameOperand (v w : Value) : Prop :=
  v = w ∨ v.IsNumeric ∧ w.IsNumeric ∧ v.plain = w.plain

/-- No character of a number is a mark. -/
theorem isMark_of_isNumeral {c : Char} (h : Decimal.isNumeral c) : isMark c = false := by
  rw [← Bool.not_eq_true]
  intro hmark
  simp only [isMark, Bool.or_eq_true, decide_eq_true_eq] at hmark
  rcases hmark with (((rfl | rfl) | rfl) | rfl) | rfl <;> exact absurd h (by decide)

/-- A number is written as a numeral. -/
theorem isNumeral_plain {v : Value} (hv : v.IsNumeric) {s : String} (hs : v.plain = .ok s) :
    Decimal.IsNumeral s.toList := by
  have hwhole : ∀ {i : ℤ}, Value.wholeText i = .ok s → Decimal.IsNumeral s.toList := by
    intro i hi
    rw [Value.eq_of_wholeText hi]
    exact Decimal.isNumeral_intText i
  cases v with
  | int i =>
    rw [Value.plain, Value.display, Value.render] at hs
    · exact hwhole hs
    all_goals exact fun _ h => nomatch h
  | float x =>
    rw [Value.plain] at hs
    split at hs
    · exact hwhole hs
    · cases hs
      exact Decimal.isNumeral_text x
  | _ => exact hv.elim

/-- A truth value is written as a word that no number is written as. -/
theorem plain_bool {b : Bool} {s : String} (hs : (Value.bool b).plain = .ok s) :
    s.toList ≠ [] ∧ IsWord s.toList ∧ ¬ Decimal.IsNumeral s.toList := by
  cases hs
  cases b with
  | false =>
    refine ⟨by simp, isWord_of_all (l := ['f', 'a', 'l', 's', 'e']) rfl, fun h => ?_⟩
    exact absurd (h.mem 's' (show 's' ∈ ['f', 'a', 'l', 's', 'e'] by simp)) (by decide)
  | true =>
    refine ⟨by simp, isWord_of_all (l := ['t', 'r', 'u', 'e']) rfl, fun h => ?_⟩
    exact absurd (h.mem 't' (show 't' ∈ ['t', 'r', 'u', 'e'] by simp)) (by decide)

/-- A value without quotes is written as a word that is not empty. -/
theorem isWord_plain {v : Value} (hv : v.IsUnquoted) {s : String} (hs : v.plain = .ok s) :
    s.toList ≠ [] ∧ IsWord s.toList := by
  have hnumeral : Decimal.IsNumeral s.toList → s.toList ≠ [] ∧ IsWord s.toList := fun h =>
    ⟨h.ne_nil, fun c hc => isMark_of_isNumeral (h.mem c hc)⟩
  cases v with
  | bool b => exact ⟨(plain_bool hs).1, (plain_bool hs).2.1⟩
  | int i => exact hnumeral (isNumeral_plain (v := .int i) trivial hs)
  | float x => exact hnumeral (isNumeral_plain (v := .float x) trivial hs)
  | _ => exact hv.elim

/-- Values that are written alike without quotes are equal truth values or two numbers. -/
theorem sameOperand_of_plain {v w : Value} (hv : v.IsUnquoted) (hw : w.IsUnquoted) {s : String}
    (hs : v.plain = .ok s) (ht : w.plain = .ok s) : v.SameOperand w := by
  have hsplit : ∀ {u : Value}, u.IsUnquoted → (∃ b, u = .bool b) ∨ u.IsNumeric := by
    intro u hu
    cases u with
    | bool b => exact .inl ⟨b, rfl⟩
    | int _ | float _ => exact .inr trivial
    | _ => exact hu.elim
  rcases hsplit hv with ⟨a, rfl⟩ | hv <;> rcases hsplit hw with ⟨b, rfl⟩ | hw
  · have hwords := Except.ok.inj (hs.trans ht.symm)
    cases a <;> cases b
    case false.false | true.true => exact .inl rfl
    all_goals exact absurd hwords (by decide)
  · exact absurd (isNumeral_plain hw ht) (plain_bool hs).2.2
  · exact absurd (isNumeral_plain hv hs) (plain_bool ht).2.2
  · exact .inr ⟨hv, hw, hs.trans ht.symm⟩

/-- A value written without quotes ends at the next mark. -/
theorem delimited_plain : Delimited Value.IsUnquoted Value.plain Value.SameOperand := by
  intro v w hv hw s t hs ht k l hk hl h
  obtain ⟨htext, hrest⟩ := word_append_inj (isWord_plain hv hs).2 (isWord_plain hw ht).2 hk hl h
  obtain rfl : s = t := String.toList_inj.mp htext
  exact ⟨sameOperand_of_plain hv hw hs ht, hrest⟩

/-- What a literal looks like: a text in quotes, or a value without. -/
theorem literal_cases {v : Value} (hv : v.IsScalar) {s : String} (hs : v.literal = .ok s) :
    (∃ u, v = .text u ∧ '\'' ∉ u.toList ∧ s.toList = '\'' :: (u.toList ++ ['\''])) ∨
      (v.IsUnquoted ∧ v.plain = .ok s) := by
  cases v with
  | text u =>
    cases hs
    exact .inl ⟨u, rfl, hv.elim id False.elim, by simp [String.toList_append]⟩
  | bool _ | int _ | float _ => exact .inr ⟨trivial, hs⟩
  | _ => exact (hv.elim id id).elim

/-- A literal is not empty and does not begin with a closing parenthesis. -/
theorem literal_head {v : Value} (hv : v.IsScalar) {s : String} (hs : v.literal = .ok s) :
    ∃ c cs, s.toList = c :: cs ∧ c ≠ ')' := by
  rcases literal_cases hv hs with ⟨u, -, -, hu⟩ | ⟨hu, hs⟩
  · exact ⟨'\'', _, hu, by decide⟩
  · obtain ⟨hne, hword⟩ := isWord_plain hu hs
    obtain ⟨c, cs, hcs⟩ := List.exists_cons_of_ne_nil hne
    refine ⟨c, cs, hcs, ?_⟩
    rintro rfl
    exact absurd (hword ')' (hcs ▸ List.mem_cons_self)) (by decide)

/-- A text in quotes is not a word with something behind it. -/
theorem quoted_ne_word_append {u k l : List Char} {s : List Char} (hne : s ≠ []) (hs : IsWord s) :
    '\'' :: (u ++ k) ≠ s ++ l := by
  intro h
  obtain ⟨c, cs, rfl⟩ := List.exists_cons_of_ne_nil hne
  obtain rfl : '\'' = c := (List.cons.inj h).1
  exact absurd (hs '\'' List.mem_cons_self) (by decide)

/-- The first character of a literal tells its sort, and the sort tells where it ends. -/
theorem delimited_literal : Delimited Value.IsScalar Value.literal Value.SameOperand := by
  intro v w hv hw s t hs ht k l hk hl h
  rcases literal_cases hv hs with ⟨a, rfl, ha, hsa⟩ | ⟨hv, hs⟩ <;>
    rcases literal_cases hw ht with ⟨b, rfl, hb, htb⟩ | ⟨hw, ht⟩
  · rw [hsa, htb, List.cons_append, List.cons_append, List.append_assoc, List.append_assoc] at h
    obtain ⟨hab, hkl⟩ := quoted_append_inj ha hb (List.cons.inj h).2
    rw [String.toList_inj.mp hab]
    exact ⟨.inl rfl, hkl⟩
  · rw [hsa, List.cons_append, List.append_assoc] at h
    obtain ⟨hne, hword⟩ := isWord_plain hw ht
    exact absurd h (quoted_ne_word_append hne hword)
  · rw [htb, List.cons_append, List.append_assoc] at h
    obtain ⟨hne, hword⟩ := isWord_plain hv hs
    exact absurd h.symm (quoted_ne_word_append hne hword)
  · exact delimited_plain hv hw hs ht hk hl h

/-! ## Lists -/

section Lists

variable {α : Type} {Fit : α → Prop} {write : α → Except Fault String} {Same : α → α → Prop}
  {sep : String}

/-- Whether a text can close a list: it begins like neither the separator nor a part. -/
structure Closes (Fit : α → Prop) (write : α → Except Fault String) (sep : String)
    (k : List Char) : Prop where
  marked : BeginsMarked k
  not_sep : ∀ m, k ≠ sep.toList ++ m
  not_part : ∀ a, Fit a → ∀ s, write a = .ok s → ∀ m, k ≠ s.toList ++ m

/-- Texts that each come behind a separator. -/
def separated (sep : String) (ss : List String) : List Char :=
  ss.flatMap fun s => sep.toList ++ s.toList

/-- Joined texts are the first and the others, each behind a separator. -/
theorem toList_intercalate_cons (sep s : String) (ss : List String) :
    (sep.intercalate (s :: ss)).toList = s.toList ++ separated sep ss := by
  induction ss generalizing s with
  | nil => simp [separated]
  | cons t ss ih =>
    rw [String.intercalate_cons_cons, String.toList_append, String.toList_append, ih]
    simp [separated]

/-- Texts behind a separator that begins with a mark begin with one. -/
theorem beginsMarked_separated (hsep : ∀ m, BeginsMarked (sep.toList ++ m)) {k : List Char}
    (hk : BeginsMarked k) (ss : List String) : BeginsMarked (separated sep ss ++ k) := by
  cases ss with
  | nil => exact hk
  | cons s ss =>
    rw [separated, List.flatMap_cons, List.append_assoc, List.append_assoc]
    exact hsep _

/-- Further parts of a list are determined with what closes it. -/
theorem Delimited.separated_append_inj (hdelimited : Delimited Fit write Same)
    (hsep : ∀ m, BeginsMarked (sep.toList ++ m)) {k l : List Char} (hk : Closes Fit write sep k)
    (hl : Closes Fit write sep l) {as bs : List α} (has : ∀ a ∈ as, Fit a) (hbs : ∀ b ∈ bs, Fit b)
    {ss ts : List String} (hss : as.mapM write = .ok ss) (hts : bs.mapM write = .ok ts)
    (h : separated sep ss ++ k = separated sep ts ++ l) : List.Forall₂ Same as bs ∧ k = l := by
  induction as generalizing bs ss ts with
  | nil =>
    obtain rfl := mapM_nil_eq_ok.mp hss
    cases bs with
    | nil =>
      obtain rfl := mapM_nil_eq_ok.mp hts
      exact ⟨.nil, h⟩
    | cons b bs =>
      -- the other list goes on with a separator, where this one is closed
      obtain ⟨t, ts, -, -, rfl⟩ := mapM_cons_eq_ok.mp hts
      rw [separated, separated, List.flatMap_cons, List.append_assoc, List.append_assoc] at h
      exact absurd h (hk.not_sep _)
  | cons a as ih =>
    obtain ⟨s, ss, hs, hss', rfl⟩ := mapM_cons_eq_ok.mp hss
    cases bs with
    | nil =>
      obtain rfl := mapM_nil_eq_ok.mp hts
      rw [separated, separated, List.flatMap_cons, List.append_assoc, List.append_assoc] at h
      exact absurd h.symm (hl.not_sep _)
    | cons b bs =>
      obtain ⟨t, ts, ht, hts', rfl⟩ := mapM_cons_eq_ok.mp hts
      obtain ⟨ha, has⟩ := List.forall_mem_cons.mp has
      obtain ⟨hb, hbs⟩ := List.forall_mem_cons.mp hbs
      simp only [separated, List.flatMap_cons, List.append_assoc, List.append_cancel_left_eq] at h
      obtain ⟨hab, hrest⟩ := hdelimited ha hb hs ht (beginsMarked_separated hsep hk.marked ss)
        (beginsMarked_separated hsep hl.marked ts) h
      obtain ⟨hsame, hkl⟩ := ih has hbs hss' hts' hrest
      exact ⟨.cons hab hsame, hkl⟩

/-- The parts of a list are determined with what closes it. -/
theorem Delimited.intercalate_append_inj (hdelimited : Delimited Fit write Same)
    (hsep : ∀ m, BeginsMarked (sep.toList ++ m)) {k l : List Char} (hk : Closes Fit write sep k)
    (hl : Closes Fit write sep l) {as bs : List α} (has : ∀ a ∈ as, Fit a) (hbs : ∀ b ∈ bs, Fit b)
    {ss ts : List String} (hss : as.mapM write = .ok ss) (hts : bs.mapM write = .ok ts)
    (h : (sep.intercalate ss).toList ++ k = (sep.intercalate ts).toList ++ l) :
    List.Forall₂ Same as bs ∧ k = l := by
  cases as with
  | nil =>
    obtain rfl := mapM_nil_eq_ok.mp hss
    cases bs with
    | nil =>
      obtain rfl := mapM_nil_eq_ok.mp hts
      exact ⟨.nil, List.append_cancel_left h⟩
    | cons b bs =>
      obtain ⟨t, ts, ht, -, rfl⟩ := mapM_cons_eq_ok.mp hts
      rw [String.intercalate_nil, toList_intercalate_cons, List.append_assoc] at h
      exact absurd h (hk.not_part b (hbs b List.mem_cons_self) t ht _)
  | cons a as =>
    obtain ⟨s, ss, hs, hss', rfl⟩ := mapM_cons_eq_ok.mp hss
    cases bs with
    | nil =>
      obtain rfl := mapM_nil_eq_ok.mp hts
      rw [String.intercalate_nil, toList_intercalate_cons, List.append_assoc] at h
      exact absurd h.symm (hl.not_part a (has a List.mem_cons_self) s hs _)
    | cons b bs =>
      obtain ⟨t, ts, ht, hts', rfl⟩ := mapM_cons_eq_ok.mp hts
      obtain ⟨ha, has⟩ := List.forall_mem_cons.mp has
      obtain ⟨hb, hbs⟩ := List.forall_mem_cons.mp hbs
      rw [toList_intercalate_cons, toList_intercalate_cons, List.append_assoc,
        List.append_assoc] at h
      obtain ⟨hab, hrest⟩ := hdelimited ha hb hs ht (beginsMarked_separated hsep hk.marked ss)
        (beginsMarked_separated hsep hl.marked ts) h
      obtain ⟨hsame, hkl⟩ := hdelimited.separated_append_inj hsep hk hl has hbs hss' hts' hrest
      exact ⟨.cons hab hsame, hkl⟩

end Lists

end ContentGateway
