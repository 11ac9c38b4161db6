import Mathlib
import ContentGateway.Proofs.Query.Solid
import ContentGateway.Proofs.Query.Unambiguous
import ContentGateway.Proofs.Text.Basic

/-!
# What a filter says

The members of a filter are joined by `and` as they are. Where each of them says something alone and
none has an `or` outside its quotes and brackets, the filter says that all of them hold. A member
with such an `or` has to stand alone: next to another member, the `and` between them would bind
tighter.

A clause on a plain field with an operand without single quotes is always one atom, whatever else
the operand holds.
-/

namespace ContentGateway

namespace Criterion

/-! ## Joined texts -/

/-- Whether a text says a criterion in which groups are nested at most so deep, and has no `or`
outside quotes and brackets. -/
def SaysWithoutOr (depth : ℕ) (t : List Char) (c : Criterion) : Prop :=
  ∃ words, words? t = some words ∧ orWord ∉ words ∧ readWords (readSteps depth) words = some c

/-- A text is read by its words, and a group in it in one step less. -/
theorem readSteps_eq_some {n : ℕ} {t : List Char} {c : Criterion} :
    readSteps (n + 1) t = some c ↔
      ∃ words, words? t = some words ∧ readWords (readSteps n) words = some c := by
  rw [readSteps, Option.bind_eq_bind, Option.bind_eq_some_iff]

/-- What is said without `or` is read. -/
theorem SaysWithoutOr.readSteps {n : ℕ} {t : List Char} {c : Criterion}
    (h : SaysWithoutOr n t c) : readSteps (n + 1) t = some c := by
  obtain ⟨words, hwords, -, hc⟩ := h
  exact readSteps_eq_some.mpr ⟨words, hwords, hc⟩

/-- What is read and has no `or` outside quotes and brackets is said without it. -/
theorem saysWithoutOr_of_read {n : ℕ} {t : List Char} {c : Criterion} (h : read t = some c)
    (hor : ¬ HasBareOr t) (hn : t.length ≤ n) : SaysWithoutOr n t c := by
  have hsteps := readSteps_mono (Nat.succ_le_succ hn) t c h
  obtain ⟨words, hwords, hc⟩ := readSteps_eq_some.mp hsteps
  refine ⟨words, hwords, ?_, hc⟩
  intro hmem
  exact hor ⟨words, hwords, hmem⟩

/-- Two texts with an `and` between them are the conjunction of what each says. -/
theorem SaysWithoutOr.and {n : ℕ} {s t : List Char} {a b : Criterion} (ha : SaysWithoutOr n s a)
    (hb : SaysWithoutOr n t b) :
    ∃ c, SaysWithoutOr n (s ++ ' ' :: (andWord ++ ' ' :: t)) c ∧
      ∀ truth, c.eval truth = (a.eval truth && b.eval truth) := by
  obtain ⟨words, hwords, hor, ha⟩ := ha
  obtain ⟨more, hmore, hor', hb⟩ := hb
  obtain ⟨hboth, c, hc, heval⟩ := readWords_and hor hor' ha hb
  have hand : words? andWord = some [andWord] := by decide
  exact ⟨c, ⟨_, words?_space hwords (words?_space hand hmore), hboth, hc⟩, heval⟩

/-- What joins the members of a filter is the word `and` between spaces. -/
theorem toList_conjunction : Query.conjunction.toList = ' ' :: (andWord ++ [' ']) := by
  simp [Query.conjunction, andWord]

/-- Texts joined by `and` are the conjunction of what each says. By induction on the texts: the
first joins what all the others say together. -/
theorem saysWithoutOr_intercalate {n : ℕ} {t : String} {ts : List String} {c : Criterion}
    {cs : List Criterion}
    (h : List.Forall₂ (fun (t : String) => SaysWithoutOr n t.toList) (t :: ts) (c :: cs)) :
    ∃ d, SaysWithoutOr n (Query.conjunction.intercalate (t :: ts)).toList d ∧
      ∀ truth, d.eval truth = (c :: cs).all (eval truth) := by
  induction ts generalizing t c cs with
  | nil =>
    obtain ⟨hfirst, hrest⟩ := List.forall₂_cons.mp h
    cases hrest
    exact ⟨c, hfirst, fun truth => by simp⟩
  | cons t' ts ih =>
    obtain ⟨hfirst, hrest⟩ := List.forall₂_cons.mp h
    cases hrest with
    | @cons _ c' _ cs' hsecond hrest =>
      obtain ⟨d, hd, heval⟩ := ih (.cons hsecond hrest)
      obtain ⟨e, he, heval'⟩ := hfirst.and hd
      refine ⟨e, ?_, fun truth => by rw [heval', heval, List.all_cons (l := c' :: cs')]⟩
      rw [String.intercalate_cons_cons, String.toList_append, String.toList_append,
        toList_conjunction]
      simpa using he

/-! ## Plain texts -/

/-- Whether a text has no quotes or brackets and none of its words is a connective. -/
def IsPlainText (t : List Char) : Prop :=
  (∀ c ∈ t, isBracket c = false) ∧ ∀ word ∈ t.splitOn ' ', word ∉ connectives

/-- A word ends where it is not empty. -/
theorem Cut.ended_eq (s : Cut) : s.ended = [s.word.reverse].filter (!·.isEmpty) := by
  unfold ended
  cases h : s.word.isEmpty <;> simp [h]

/-- Without quotes and brackets a text is cut at its spaces. -/
theorem run_plain {t : List Char} (h : ∀ c ∈ t, isBracket c = false) {word : Word}
    (hword : ' ' ∉ word) :
    ∃ front s, (⟨word, 0, false⟩ : Cut).run t = some (front, s) ∧ s.isClosed ∧
      front ++ s.ended = ((word.reverse ++ t).splitOn ' ').filter (!·.isEmpty) := by
  have hsplit : ∀ {word : Word}, ' ' ∉ word → word.reverse.splitOn ' ' = [word.reverse] :=
    fun hword => List.splitOn_eq_singleton (by simpa using hword)
  induction t generalizing word with
  | nil =>
    refine ⟨[], ⟨word, 0, false⟩, rfl, rfl, ?_⟩
    rw [List.append_nil, hsplit hword, Cut.ended_eq, List.nil_append]
  | cons c t ih =>
    obtain ⟨hc, ht⟩ := List.forall_mem_cons.mp h
    by_cases hspace : c = ' '
    · subst hspace
      obtain ⟨front, s, hrun, hclosed, hfront⟩ := ih ht (List.not_mem_nil : ' ' ∉ ([] : Word))
      have hrun' := Cut.run_append_of_run (Cut.run_space (s := ⟨word, 0, false⟩) rfl) hrun
      refine ⟨_, s, hrun', hclosed, ?_⟩
      rw [List.append_assoc, hfront, Cut.ended_eq, List.splitOn_append_cons_self, hsplit hword,
        List.filter_append, List.reverse_nil, List.nil_append]
    · have hstep := Cut.step_ordinary (s := ⟨word, 0, false⟩) rfl hc (.inr hspace)
      have hword' : ' ' ∉ c :: word := by
        rw [List.mem_cons, not_or]
        exact ⟨Ne.symm hspace, hword⟩
      obtain ⟨front, s, hrun, hclosed, hfront⟩ := ih ht hword'
      refine ⟨front, s, ?_, hclosed, ?_⟩
      · rw [Cut.run, hstep]
        simp only [Option.bind_eq_bind, Option.bind_some, hrun, List.nil_append]
        rfl
      · rw [hfront, List.reverse_cons, List.append_assoc, List.singleton_append]

/-- Without quotes and brackets, the words of a text stand between its blanks. -/
theorem words?_plain {t : List Char} (h : ∀ c ∈ t, isBracket c = false) :
    words? t = some ((t.splitOn ' ').filter (!·.isEmpty)) := by
  obtain ⟨front, s, hrun, hclosed, hfront⟩ := run_plain h (List.not_mem_nil : ' ' ∉ ([] : Word))
  exact words?_eq_some.mpr ⟨front, s, hrun, hclosed, hfront.symm⟩

/-- A word of a plain text does not open a group. -/
theorem IsPlainText.head?_ne {t : List Char} (h : IsPlainText t) {word : Word}
    (hword : word ∈ t.splitOn ' ') : word.head? ≠ some '(' := by
  intro hhead
  have hmem : '(' ∈ t := Text.subset_of_mem_splitOn hword (List.mem_of_mem_head? hhead)
  exact absurd (h.1 '(' hmem) (by decide)

/-! ## Atoms -/

/-- Words without a connective of which the first does not open a group are an atom. -/
theorem readWords_atom {readGroup : List Char → Option Criterion} {word : Word} {words : List Word}
    (h : ∀ w ∈ word :: words, w ∉ connectives) (hhead : word.head? ≠ some '(') :
    readWords readGroup (word :: words) = some (atom (word :: words)) := by
  have hne : ∀ w ∈ connectives, w ∉ word :: words := fun w hw hmem => h w hmem hw
  have hunit : readUnit readGroup (word :: words) = some (atom (word :: words)) := by
    have hnot := hne notWord (by simp [connectives])
    rw [List.mem_cons, not_or] at hnot
    unfold readUnit
    rw [if_neg (Ne.symm hnot.1), if_neg hhead, if_neg (by simpa using hnot.2)]
  rw [readWords_eq_readConjunction (hne orWord (by simp [connectives]))]
  refine readConjunction_eq_some.mpr ⟨[atom (word :: words)], ?_, rfl⟩
  rw [List.splitOn_eq_singleton (hne andWord (by simp [connectives])), List.mapM_cons, hunit]
  rfl

/-- Whether a text is one atom, however deep groups may be nested. -/
def IsAtom (t : List Char) : Prop :=
  ∃ words, ∀ n, SaysWithoutOr n t (atom words)

/-- A text is an atom if no word of it is a connective or begins a group. -/
theorem isAtom_of_words {t : List Char} {word : Word} {words : List Word}
    (hwords : words? t = some (word :: words)) (h : ∀ w ∈ word :: words, w ∉ connectives)
    (hhead : word.head? ≠ some '(') : IsAtom t := by
  refine ⟨word :: words, fun n => ⟨_, hwords, ?_, readWords_atom h hhead⟩⟩
  intro hor
  exact h orWord hor (by simp [connectives])

end Criterion

open Criterion

/-! ## Plain clauses -/

/-- The operands without single quotes that an operator takes. -/
def Operator.TakesQuoteFree : Operator → Value → Prop
  | .equals, v | .notEquals, v => v.IsQuoteFree
  | .greaterThan, v | .greaterOrEqual, v | .lessThan, v | .lessOrEqual, v => v.IsUnquoted
  | .contains, v | .startsWith, v | .endsWith, v =>
    ∃ s : String, v.displayPoints = .ok (Text.points s.toList) ∧ '\'' ∉ s.toList
  | .isIn, .list vs => ∀ v ∈ vs, v.IsQuoteFree
  | .isIn, _ => False
  | .other _, _ => False

namespace Clause

/-- Whether the field of a clause is a plain text, and its operand one without single quotes. -/
structure IsPlain (c : Clause) : Prop where
  field : ∃ name, c.field = .text name ∧ IsPlainText name.toList
  operand : c.operator.TakesQuoteFree c.operand

/-- A text with a character that no connective has is none. -/
theorem not_mem_connectives {t : Word} {c : Char} (hc : c ∈ t)
    (h : c ∉ ['a', 'n', 'd', 'o', 'r', 't']) : t ∉ connectives := by
  intro hmem
  simp only [connectives, List.mem_cons, List.not_mem_nil, or_false] at hmem
  rcases hmem with rfl | rfl | rfl <;> simp_all [andWord, orWord, notWord]

/-- A number is no connective. -/
theorem isNumeral_not_mem_connectives {t : Word} (h : Decimal.IsNumeral t) : t ∉ connectives := by
  intro hmem
  simp only [connectives, List.mem_cons, List.not_mem_nil, or_false] at hmem
  rcases hmem with rfl | rfl | rfl
  · exact absurd (h.mem 'd' (by simp [andWord])) (by decide)
  · exact absurd (h.mem 'o' (by simp [orWord])) (by decide)
  · exact absurd (h.mem 'o' (by simp [notWord])) (by decide)

/-- A value without quotes is written as one word that is no connective. -/
theorem plain_word {v : Value} (hv : v.IsUnquoted) {s : String} (hs : v.plain = .ok s) :
    Solid s.toList ∧ s.toList ∉ connectives := by
  have hnumeral : Decimal.IsNumeral s.toList → Solid s.toList ∧ s.toList ∉ connectives := fun h =>
    ⟨solid_of_isNumeral h, isNumeral_not_mem_connectives h⟩
  cases v with
  | bool b =>
    cases hs
    cases b <;>
      exact ⟨solid_of_forall (by simp [isBracket, opens, closes]),
        not_mem_connectives (c := 'e') (by simp) (by decide)⟩
  | int i => exact hnumeral (isNumeral_plain (v := .int i) trivial hs)
  | float x => exact hnumeral (isNumeral_plain (v := .float x) trivial hs)
  | _ => exact hv.elim

/-- The literal of a value without single quotes is one word that is no connective. -/
theorem literal_word {v : Value} (hv : v.IsQuoteFree) {s : String} (hs : v.literal = .ok s) :
    s.toList ≠ [] ∧ s.toList ∉ connectives := by
  have hother : ∀ c ∈ s.toList, c ∉ ['a', 'n', 'd', 'o', 'r', 't'] →
      s.toList ≠ [] ∧ s.toList ∉ connectives := fun c hc h =>
    ⟨List.ne_nil_of_mem hc, not_mem_connectives hc h⟩
  have hunquoted : v.IsUnquoted → v.plain = .ok s → s.toList ≠ [] ∧ s.toList ∉ connectives :=
    fun hv hs => ⟨(isWord_plain hv hs).1, (plain_word hv hs).2⟩
  cases hv with
  | null =>
    cases hs
    exact hother 'N' (by simp) (by decide)
  | bool b => exact hunquoted trivial hs
  | int i => exact hunquoted trivial hs
  | float x => exact hunquoted trivial hs
  | text h =>
    cases hs
    exact hother '\'' (by simp [String.toList_append]) (by decide)
  | list h =>
    rw [Value.literal, Value.plain, Value.display, Value.render] at hs
    · obtain ⟨ss, -, hs⟩ := bind_eq_ok.mp hs
      cases hs
      exact hother '[' (by simp [String.toList_append]) (by decide)
    all_goals simp
  | dict hnames h =>
    rw [Value.literal, Value.plain, Value.display, Value.render] at hs
    · obtain ⟨ss, -, hs⟩ := bind_eq_ok.mp hs
      cases hs
      exact hother '\x7b' (by simp [String.toList_append]) (by decide)
    all_goals simp

/-- Literals with commas between them are sheltered. -/
theorem sheltered_literals {vs : List Value} (hvs : ∀ v ∈ vs, v.IsQuoteFree) {ss : List String}
    (hss : vs.mapM Value.literal = .ok ss) : Sheltered (",".intercalate ss).toList := by
  refine sheltered_intercalate (sheltered_of_forall (by simp [isBracket, opens, closes])) ?_
  induction vs generalizing ss with
  | nil =>
    obtain rfl := mapM_nil_eq_ok.mp hss
    exact List.forall_mem_nil _
  | cons v vs ih =>
    obtain ⟨s, rest, hs, hrest, rfl⟩ := mapM_cons_eq_ok.mp hss
    obtain ⟨hv, hvs⟩ := List.forall_mem_cons.mp hvs
    exact List.forall_mem_cons.mpr ⟨(hv.solid_literal hs).sheltered, ih hvs hrest⟩

/-- What a plain clause has behind its operator is one word that is no connective. -/
theorem operandText_word {op : Operator} (hop : ¬ op.isFunction) {v : Value}
    (hv : op.TakesQuoteFree v) {s : String} (hs : op.operandText v = .ok s) :
    words? s.toList = some [s.toList] ∧ s.toList ∉ connectives := by
  cases op with
  | contains | startsWith | endsWith => exact absurd rfl hop
  | other _ => exact hv.elim
  | equals | notEquals =>
    obtain ⟨hne, hword⟩ := literal_word hv hs
    exact ⟨words?_of_solid (hv.solid_literal hs) hne, hword⟩
  | greaterThan | greaterOrEqual | lessThan | lessOrEqual =>
    obtain ⟨hsolid, hword⟩ := plain_word hv hs
    exact ⟨words?_of_solid hsolid (isWord_plain hv hs).1, hword⟩
  | isIn =>
    cases v with
    | list vs =>
      obtain ⟨_, hitems, hs⟩ := bind_eq_ok.mp hs
      cases hitems
      obtain ⟨ss, hss, hs⟩ := bind_eq_ok.mp hs
      cases hs
      have hgroup := words?_group (sheltered_literals hv hss)
      have htext : ("(" ++ ",".intercalate ss ++ ")").toList =
          '(' :: ((",".intercalate ss).toList ++ [')']) := by
        simp [String.toList_append]
      rw [htext]
      exact ⟨hgroup, not_mem_connectives List.mem_cons_self (by decide)⟩
    | _ => exact hv.elim

/-- The word of an operator that takes an operand is a word of its own and no connective. -/
theorem operator_word {op : Operator} {v : Value} (h : op.TakesQuoteFree v) :
    Solid op.word.toList ∧ op.word.toList ≠ [] ∧ op.word.toList ∉ connectives ∧
      op.word.toList.head? ≠ some '(' := by
  cases op with
  | other _ => exact h.elim
  | _ =>
    refine ⟨solid_of_forall ?_, ?_, ?_, ?_⟩ <;>
      simp [Operator.word, isBracket, opens, closes, connectives, andWord, orWord, notWord]

/-- A relation is an atom: the words of its field, that of its operator, and its operand. -/
theorem IsPlain.isAtom_relation {c : Clause} (hc : c.IsPlain) (hop : ¬ c.operator.isFunction)
    {t : String} (ht : c.render = .ok t) : IsAtom t.toList := by
  obtain ⟨name, hname, hplain⟩ := hc.field
  obtain ⟨r, hr, htext⟩ := render_relation hop hname ht
  obtain ⟨hsolid, hne, hword, hhead⟩ := operator_word hc.operand
  obtain ⟨hoperand, hoperandWord⟩ := operandText_word hop hc.operand hr
  have hwords := words?_space (words?_plain hplain.1)
    (words?_space (words?_of_solid hsolid hne) hoperand)
  rw [← htext] at hwords
  have hfield : ∀ w ∈ (name.toList.splitOn ' ').filter (!·.isEmpty),
      w ∉ connectives ∧ w.head? ≠ some '(' := fun w hw =>
    ⟨hplain.2 w (List.mem_of_mem_filter hw), hplain.head?_ne (List.mem_of_mem_filter hw)⟩
  -- the first word is one of the field, or the operator where the field has none
  cases hfieldWords : (name.toList.splitOn ' ').filter (!·.isEmpty) with
  | nil =>
    rw [hfieldWords] at hwords
    refine isAtom_of_words hwords ?_ hhead
    simp only [List.append_eq, List.nil_append, List.forall_mem_cons]
    exact ⟨hword, hoperandWord, List.forall_mem_nil _⟩
  | cons w ws =>
    rw [hfieldWords] at hwords hfield
    refine isAtom_of_words hwords ?_ (hfield w List.mem_cons_self).2
    rw [List.append_eq, ← List.cons_append, List.forall_mem_append]
    refine ⟨fun u hu => (hfield u hu).1, ?_⟩
    simp only [List.singleton_append, List.forall_mem_cons]
    exact ⟨hword, hoperandWord, List.forall_mem_nil _⟩

/-- The text of a function's operand has no single quote. -/
theorem IsPlain.quote_not_mem {c : Clause} (hc : c.IsPlain) (hop : c.operator.isFunction)
    {s : String} (hs : c.operand.display = .ok s) : '\'' ∉ s.toList := by
  obtain ⟨shown, hpoints, hquote⟩ : ∃ shown : String,
      c.operand.displayPoints = .ok (Text.points shown.toList) ∧ '\'' ∉ shown.toList := by
    have htakes := hc.operand
    cases hoperator : c.operator <;> rw [hoperator] at hop htakes
    case contains | startsWith | endsWith => exact htakes
    all_goals cases hop
  have hshown := Value.displayPoints_alike isSpelling_mended c.operand.speltBy_mended
  rw [hpoints, hs] at hshown
  cases hshown with
  | ok h => rwa [← h, Text.mended_points, String.toList_ofList]

/-- A function is an atom of one word. -/
theorem IsPlain.isAtom_function {c : Clause} (hc : c.IsPlain) (hop : c.operator.isFunction)
    {t : String} (ht : c.render = .ok t) : IsAtom t.toList := by
  obtain ⟨name, hname, hplain⟩ := hc.field
  obtain ⟨s, hs, htext⟩ := render_call hop hname ht
  obtain ⟨hsolid, hne, hword, hhead⟩ := operator_word hc.operand
  have hinner : Sheltered (name.toList ++ ([',', ' '] ++ '\'' :: (s.toList ++ ['\'']))) :=
    (sheltered_of_forall hplain.1).append
      ((sheltered_of_forall (by simp [isBracket, opens, closes])).append
        (solid_quoted (hc.quote_not_mem hop hs)).sheltered)
  have hwords := words?_call hsolid hne hword hhead hinner
  have hcall : t.toList = c.operator.word.toList ++
      '(' :: (name.toList ++ ([',', ' '] ++ '\'' :: (s.toList ++ ['\''])) ++ [')']) := by
    rw [htext]
    simp
  rw [← hcall] at hwords
  refine isAtom_of_words hwords ?_ ?_
  · rw [List.forall_mem_singleton, hcall]
    exact not_mem_connectives (c := '(') (by simp) (by decide)
  · obtain ⟨d, ds, hd⟩ := List.exists_cons_of_ne_nil hne
    rw [hcall, hd]
    rw [hd] at hhead
    exact hhead

/-- A plain clause is an atom. -/
theorem IsPlain.isAtom {c : Clause} (hc : c.IsPlain) {t : String} (ht : c.render = .ok t) :
    IsAtom t.toList := by
  by_cases hop : c.operator.isFunction
  · exact hc.isAtom_function hop ht
  · exact hc.isAtom_relation hop ht

/-- There is no broken text in a plain clause. -/
theorem IsPlain.isWhole {c : Clause} (hc : c.IsPlain) : (FilterPart.clause c).IsWhole := by
  obtain ⟨⟨name, hname, -⟩, htakes⟩ := hc
  obtain ⟨field, op, v⟩ := c
  obtain rfl : field = .text name := hname
  refine ⟨Value.speltBy_of_ne nofun, Value.speltBy_of_ne ?_, ?_⟩
  · rintro t rfl
    cases op with
    | equals | notEquals => cases htakes
    | contains | startsWith | endsWith =>
      obtain ⟨s, hs, -⟩ := htakes
      exact t.ne_points _ (Except.ok.inj hs)
    | _ => exact htakes
  · rintro rfl vs hvs w hw
    cases v with
    | list items =>
      cases hvs
      refine Value.speltBy_of_ne fun t ht => ?_
      cases ht ▸ htakes w hw
    | _ => exact htakes.elim

end Clause

/-! ## Filters -/

namespace FilterPart

/-- Whether a member is written as a text. -/
def IsText (part : FilterPart) (t : String) : Prop := part.points = .ok (Text.points t.toList)

/-- A member that is a text is written as it. -/
theorem IsText.render {part : FilterPart} {t : String} (h : part.IsText t) :
    part.render = .ok t := by
  have hshown := points_alike isSpelling_mended part.speltBy_mended
  rw [show part.points = _ from h] at hshown
  obtain ⟨s, hs, hmended⟩ := hshown.ok_left
  rw [hs, ← hmended, Text.mended_points, String.ofList_toList]

/-- What is written without broken texts is written as a text. -/
theorem IsWhole.isText {part : FilterPart} (h : part.IsWhole) {ps : List Text.Point}
    (hps : part.points = .ok ps) : ∃ t, part.IsText t := by
  have hshown := points_alike isSpelling_points h
  rw [hps] at hshown
  obtain ⟨t, -, rfl⟩ := hshown.ok_left
  exact ⟨t, hps⟩

/-- Whether the text of a member says a criterion. -/
def Says (part : FilterPart) (c : Criterion) : Prop :=
  ∃ t, part.IsText t ∧ Criterion.read t.toList = some c

/-- Whether a member can stand next to others: it is a plain clause, or it says something and has no
`or` outside quotes and brackets. -/
def IsConjunct (part : FilterPart) : Prop :=
  (∃ c, part = .clause c ∧ c.IsPlain) ∨
    ∃ t, part.IsText t ∧ (∃ c, Criterion.read t.toList = some c) ∧ ¬ HasBareOr t.toList

theorem Says.isText {part : FilterPart} {c : Criterion} (h : part.Says c) : ∃ t, part.IsText t := by
  obtain ⟨t, ht, -⟩ := h
  exact ⟨t, ht⟩

/-- A member that can stand next to others is written as a text, if it is written at all. -/
theorem IsConjunct.isText {part : FilterPart} (h : part.IsConjunct) {ps : List Text.Point}
    (hps : part.points = .ok ps) : ∃ t, part.IsText t := by
  rcases h with ⟨c, rfl, hplain⟩ | ⟨t, ht, -⟩
  · exact hplain.isWhole.isText hps
  · exact ⟨t, ht⟩

/-- What a member that can stand next to others says, without an `or` of its own. -/
theorem IsConjunct.saysWithoutOr {part : FilterPart} (h : part.IsConjunct) {t : String}
    (ht : part.IsText t) :
    ∃ c, part.Says c ∧ ∀ n, t.toList.length ≤ n → SaysWithoutOr n t.toList c := by
  rcases h with ⟨clause, rfl, hplain⟩ | ⟨t', ht', ⟨c, hc⟩, hor⟩
  · obtain ⟨words, hwords⟩ := hplain.isAtom ht.render
    exact ⟨_, ⟨t, ht, (hwords _).readSteps⟩, fun n _ => hwords n⟩
  · obtain rfl := Except.ok.inj (ht.render.symm.trans ht'.render)
    exact ⟨c, ⟨t, ht, hc⟩, fun n hn => saysWithoutOr_of_read hc hor hn⟩

end FilterPart

namespace Query

/-- A part is not longer than what it is joined into. -/
theorem length_le_intercalate (sep : String) {t : String} {ts : List String} (h : t ∈ ts) :
    t.toList.length ≤ (sep.intercalate ts).toList.length := by
  induction ts with
  | nil => exact absurd h List.not_mem_nil
  | cons s ts ih =>
    cases ts with
    | nil => rw [List.mem_singleton.mp h, String.intercalate_singleton]
    | cons u ts =>
      simp only [String.intercalate_cons_cons, String.toList_append, List.length_append]
      rcases List.mem_cons.mp h with rfl | h
      · omega
      · have hrest := ih h
        omega

/-- The criteria that members say one by one, as far as they can stand next to each other. -/
theorem exists_criteria {parts : List FilterPart} (h : ∀ part ∈ parts, part.IsConjunct) {n : ℕ}
    {ts : List String} (hts : List.Forall₂ FilterPart.IsText parts ts)
    (hn : ∀ t ∈ ts, t.toList.length ≤ n) :
    ∃ cs, List.Forall₂ FilterPart.Says parts cs ∧
      List.Forall₂ (fun (t : String) => SaysWithoutOr n t.toList) ts cs := by
  induction hts with
  | nil => exact ⟨[], .nil, .nil⟩
  | cons ht _ ih =>
    obtain ⟨hpart, hparts⟩ := List.forall_mem_cons.mp h
    obtain ⟨hlength, hlengths⟩ := List.forall_mem_cons.mp hn
    obtain ⟨c, hsays, hc⟩ := hpart.saysWithoutOr ht
    obtain ⟨cs, hcs, hcs'⟩ := ih hparts hlengths
    exact ⟨c :: cs, .cons hsays hcs, .cons (hc n hlength) hcs'⟩

/-- The text of a filter whose members can stand next to each other. -/
theorem read_intercalate {parts : List FilterPart} (h : ∀ part ∈ parts, part.IsConjunct)
    (hparts : parts ≠ []) {ts : List String} (hts : List.Forall₂ FilterPart.IsText parts ts) :
    ∃ c cs, Criterion.read (conjunction.intercalate ts).toList = some c ∧
      List.Forall₂ FilterPart.Says parts cs ∧ ∀ truth, c.eval truth = cs.all (eval truth) := by
  obtain ⟨cs, hsays, hcs⟩ := exists_criteria h hts fun t ht => length_le_intercalate conjunction ht
  cases hts with
  | nil => exact absurd rfl hparts
  | cons _ _ =>
    cases hcs with
    | cons hfirst hrest =>
      obtain ⟨c, hc, heval⟩ := saysWithoutOr_intercalate (.cons hfirst hrest)
      exact ⟨c, _, hc.readSteps, hsays, heval⟩

/-- Members that are written as texts are one by one. -/
theorem exists_texts {parts : List FilterPart} {pss : List (List Text.Point)}
    (hpss : parts.mapM FilterPart.points = .ok pss)
    (h : ∀ part ∈ parts, ∀ ps, part.points = .ok ps → ∃ t, part.IsText t) :
    ∃ ts, List.Forall₂ FilterPart.IsText parts ts ∧
      pss = ts.map fun t => Text.points t.toList := by
  induction parts generalizing pss with
  | nil => exact ⟨[], .nil, mapM_nil_eq_ok.mp hpss⟩
  | cons part parts ih =>
    obtain ⟨ps, rest, hps, hrest, rfl⟩ := mapM_cons_eq_ok.mp hpss
    obtain ⟨hpart, hparts⟩ := List.forall_mem_cons.mp h
    obtain ⟨t, ht⟩ := hpart ps hps
    obtain ⟨ts, hts, rfl⟩ := ih hrest hparts
    obtain rfl := Except.ok.inj (hps.symm.trans ht)
    exact ⟨t :: ts, .cons ht hts, rfl⟩

/-- Where every member of a filter can stand next to others, or says something and is the only one,
the filter says that all of them hold, and without members there is no filter. Plain clauses are
atoms. -/
theorem filter_says_conjunction {q : Query}
    (h : ∀ part ∈ q.parts, part.IsConjunct ∨ q.parts = [part] ∧ ∃ c, part.Says c)
    {fields : Fields} (hfields : q.compile = .ok fields) :
    (∀ clause : Clause, .clause clause ∈ q.parts → clause.IsPlain →
      ∃ words, (FilterPart.clause clause).Says (.atom words)) ∧
    ((q.parts = [] ∧ fields.find? "$filter" = none) ∨
      ∃ text c cs, fields.find? "$filter" = some (.text text) ∧
        Criterion.read text.toList = some c ∧ List.Forall₂ FilterPart.Says q.parts cs ∧
        ∀ truth, c.eval truth = cs.all (eval truth)) := by
  obtain ⟨ps?, hfilter, hfind⟩ := compile_filter hfields
  obtain ⟨pss, hpss, rfl⟩ := filterPoints_eq_ok hfilter
  by_cases hempty : q.parts = []
  · rw [if_pos hempty] at hfind
    refine ⟨fun clause hclause => ?_, .inl ⟨hempty, hfind⟩⟩
    rw [hempty] at hclause
    exact absurd hclause List.not_mem_nil
  obtain ⟨ts, hts, rfl⟩ := exists_texts hpss fun part hpart ps hps => by
    rcases h part hpart with hconjunct | ⟨-, c, hsays⟩
    · exact hconjunct.isText hps
    · exact hsays.isText
  rw [if_neg hempty, ← Text.points_intercalate, Option.map_some, Value.ofPoints_points,
    String.ofList_toList] at hfind
  rw [hfind]
  constructor
  · intro clause hclause hplain
    obtain ⟨t, -, ht⟩ := exists_of_forall₂ hts hclause
    obtain ⟨words, hwords⟩ := hplain.isAtom ht.render
    exact ⟨words, t, ht, (hwords _).readSteps⟩
  right
  by_cases hall : ∀ part ∈ q.parts, part.IsConjunct
  · obtain ⟨c, cs, hc, hsays, heval⟩ := read_intercalate hall hempty hts
    exact ⟨_, c, cs, rfl, hc, hsays, heval⟩
  · obtain ⟨part, hpart, hnot⟩ : ∃ part ∈ q.parts, ¬ part.IsConjunct := by simpa using hall
    obtain ⟨hone, c, t, ht, hc⟩ := (h part hpart).resolve_left hnot
    rw [hone] at hts ⊢
    obtain ⟨t', rest, ht', hrest, rfl⟩ := List.forall₂_cons_left_iff.mp hts
    obtain rfl := List.forall₂_nil_left_iff.mp hrest
    obtain rfl := Except.ok.inj (ht.render.symm.trans ht'.render)
    refine ⟨_, c, [c], rfl, ?_, .cons ⟨t, ht, hc⟩ .nil, fun truth => by simp⟩
    rwa [String.intercalate_singleton]

/-- A raw expression with its `or` in parentheses, and clauses that hold one in an operand. -/
theorem filter_says_conjunction_mixed :
    ∃ text c cs, Criterion.read (String.toList text) = some c ∧ List.Forall₂ FilterPart.Says
      [.raw (.text "not (a or b)"), .clause ⟨.text "title", .equals, .text "x or y"⟩,
        .clause ⟨.text "size of", .isIn, .list [.int 5, .text ") and ("]⟩] cs ∧
      ∀ truth, c.eval truth = cs.all (eval truth) := by
  have hplain : ∀ name : String, IsPlainText name.toList → ∀ op v,
      Operator.TakesQuoteFree op v → (FilterPart.clause ⟨.text name, op, v⟩).IsConjunct :=
    fun name hname op v hv => .inl ⟨_, rfl, ⟨name, rfl, hname⟩, hv⟩
  have hparts := (@filter_says_conjunction
    ([.filter (.raw (.text "not (a or b)")),
      .filter (.clause ⟨.text "title", .equals, .text "x or y"⟩), .top (.int 2),
      .filter (.clause ⟨.text "size of", .isIn, .list [.int 5, .text ") and ("]⟩)].foldl set empty)
    ?_ _ rfl).2
  · obtain ⟨hempty, -⟩ | ⟨text, c, cs, -, hread, hsays, heval⟩ := hparts
    · exact absurd hempty (List.cons_ne_nil _ _)
    · exact ⟨text, c, cs, hread, hsays, heval⟩
  · intro part hpart
    left
    simp only [List.foldl, set, empty, List.nil_append, List.cons_append, List.mem_cons,
      List.not_mem_nil, or_false] at hpart
    rcases hpart with rfl | rfl | rfl
    · refine .inr ⟨_, rfl, ⟨.negation (.disjunction (.atom [['a']]) (.atom [['b']])),
        by decide +kernel⟩, ?_⟩
      have hwords : words? "not (a or b)".toList = some [notWord, "(a or b)".toList] := by
        decide +kernel
      rintro ⟨words, hwords', hor⟩
      obtain rfl := Option.some.inj (hwords.symm.trans hwords')
      exact absurd hor (by decide +kernel)
    · exact hplain _ ⟨by simp [isBracket, opens, closes], by decide +kernel⟩ _ _ (.text (by simp))
    · exact hplain _ ⟨by simp [isBracket, opens, closes], by decide +kernel⟩ _ _
        (List.forall_mem_cons.mpr ⟨.int 5, List.forall_mem_singleton.mpr (.text (by simp))⟩)

/-- Whether the filter of a member and the clause `c eq 1` can hold where not both of them do. -/
def Widens (member : FilterPart) : Prop :=
  ∃ text c m d truth,
    ([.filter member, .filter (.clause ⟨.text "c", .equals, .int 1⟩)].foldl set empty).compile =
      .ok [("$filter", .text text)] ∧
    Criterion.read text.toList = some c ∧ member.Says m ∧
    (FilterPart.clause ⟨.text "c", .equals, .int 1⟩).Says d ∧
    c.eval truth = true ∧ (m.eval truth && d.eval truth) = false

/-- Next to another member, an `or` outside quotes and brackets does not keep its operands together,
whether it stands in a raw expression or in the field of a clause. -/
theorem filter_or_not_conjunction :
    Widens (.raw (.text "a or b")) ∧ Widens (.clause ⟨.text "a or b", .equals, .int 1⟩) := by
  have hsays : (FilterPart.clause ⟨.text "c", .equals, .int 1⟩).Says
      (.atom ["c".toList, "eq".toList, "1".toList]) := ⟨"c eq 1", rfl, by decide +kernel⟩
  constructor
  · exact ⟨"a or b and c eq 1",
      .disjunction (.atom [['a']]) (.conjunction (.atom [['b']])
        (.atom ["c".toList, "eq".toList, "1".toList])),
      .disjunction (.atom [['a']]) (.atom [['b']]), _, fun words => words = [['a']], rfl,
      by decide +kernel, ⟨"a or b", rfl, by decide +kernel⟩, hsays, by decide +kernel,
      by decide +kernel⟩
  · exact ⟨"a or b eq 1 and c eq 1",
      .disjunction (.atom [['a']]) (.conjunction (.atom [['b'], "eq".toList, ['1']])
        (.atom ["c".toList, "eq".toList, "1".toList])),
      .disjunction (.atom [['a']]) (.atom [['b'], "eq".toList, ['1']]), _,
      fun words => words = [['a']], rfl,
      by decide +kernel, ⟨"a or b eq 1", rfl, by decide +kernel⟩, hsays, by decide +kernel,
      by decide +kernel⟩

end Query

end ContentGateway
