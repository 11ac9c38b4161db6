import Mathlib
import ContentGateway.Proofs.Query.Boundary

/-!
# What a filter text says

A filter text combines *atoms* by `not`, `and`, `or` and parentheses; `not` binds tighter than
`and`, and `and` tighter than `or`. To read it, it is first cut into words at the spaces outside
quotes and brackets. An opening parenthesis where a word would begin, or right behind a connective,
opens a group, which is one word up to the parenthesis that closes it; one behind any other word
belongs to that word, as in `contains(title, 'x')`. Then the words are cut at every `or`, what
stands between two of them at every `and`, and what is left is an atom or a group, behind any number
of `not`s. An atom is known by its words.

A text whose quotes or brackets do not match, or that lacks an operand, has no reading.
-/

namespace ContentGateway

/-- A word of a filter text. -/
abbrev Word := List Char

/-- What a filter text says. -/
inductive Criterion where
  | atom (words : List Word)
  | negation (c : Criterion)
  | conjunction (a b : Criterion)
  | disjunction (a b : Criterion)
  deriving DecidableEq

namespace Criterion

/-- Whether a criterion holds where atoms are true or false as given. -/
def eval (truth : List Word → Bool) : Criterion → Bool
  | atom words => truth words
  | negation c => !c.eval truth
  | conjunction a b => a.eval truth && b.eval truth
  | disjunction a b => a.eval truth || b.eval truth

/-- Criteria combined from the left. There has to be one. -/
def combine (op : Criterion → Criterion → Criterion) : List Criterion → Option Criterion
  | [] => none
  | c :: cs => some (cs.foldl op c)

/-! ## Words -/

def andWord : Word := ['a', 'n', 'd']

def orWord : Word := ['o', 'r']

def notWord : Word := ['n', 'o', 't']

def connectives : List Word := [andWord, orWord, notWord]

/-- A character that opens a bracket. -/
def opens (c : Char) : Bool := c = '(' || c = '[' || c = '\x7b'

/-- A character that closes a bracket. -/
def closes (c : Char) : Bool := c = ')' || c = ']' || c = '\x7d'

/-- How far a text is cut into words: the word that is being read, last character first, how many
brackets are open, and whether a quote is. -/
structure Cut where
  word : Word
  depth : ℕ
  quoted : Bool
  deriving DecidableEq

namespace Cut

/-- Before the first character of a word. -/
def start : Cut := ⟨[], 0, false⟩

/-- The word that ends here, if there is one. -/
def ended (s : Cut) : List Word := if s.word.isEmpty then [] else [s.word.reverse]

/-- Takes a character: the word that it ends, if any, and how far the text is cut behind it. A
bracket that was not opened cannot be closed. -/
def step (s : Cut) (c : Char) : Option (List Word × Cut) :=
  if s.quoted then some ([], ⟨c :: s.word, s.depth, c ≠ '\''⟩)
  else if c = '\'' then some ([], ⟨c :: s.word, s.depth, true⟩)
  else if opens c then
    if c = '(' && s.depth = 0 && connectives.contains s.word.reverse then
      some (s.ended, ⟨[c], 1, false⟩)
    else some ([], ⟨c :: s.word, s.depth + 1, false⟩)
  else if closes c then
    match s.depth with
    | 0 => none
    | depth + 1 =>
      if c = ')' && depth = 0 && s.word.getLast? = some '(' then
        some ([(c :: s.word).reverse], start)
      else some ([], ⟨c :: s.word, depth, false⟩)
  else if c = ' ' && s.depth = 0 then some (s.ended, start)
  else some ([], ⟨c :: s.word, s.depth, false⟩)

/-- Takes a text. -/
def run : Cut → List Char → Option (List Word × Cut)
  | s, [] => some ([], s)
  | s, c :: cs => do
    let (words, s) ← s.step c
    let (more, s) ← run s cs
    return (words ++ more, s)

/-- Whether a text may end here: every bracket and quote is closed. -/
def isClosed (s : Cut) : Bool := s.depth = 0 && !s.quoted

end Cut

def words? (cs : List Char) : Option (List Word) := do
  let (words, s) ← Cut.start.run cs
  if s.isClosed then return words ++ s.ended else none

/-! ## Reading -/

/-- A criterion without `and` and `or`: behind any `not`s, a group or an atom. -/
def readUnit (readGroup : List Char → Option Criterion) : List Word → Option Criterion
  | [] => none
  | word :: words =>
    if word = notWord then negation <$> readUnit readGroup words
    else if word.head? = some '(' then
      if words.isEmpty && word.getLast? = some ')' then readGroup word.tail.dropLast else none
    else if words.contains notWord then none
    else some (atom (word :: words))

/-- A criterion without `or`. -/
def readConjunction (readGroup : List Char → Option Criterion) (words : List Word) :
    Option Criterion := do
  combine conjunction (← (words.splitOn andWord).mapM (readUnit readGroup))

/-- The criterion of words. -/
def readWords (readGroup : List Char → Option Criterion) (words : List Word) :
    Option Criterion := do
  combine disjunction (← (words.splitOn orWord).mapM (readConjunction readGroup))

/-- The criterion of a text in which groups are nested less than `steps` deep. -/
def readSteps : (steps : ℕ) → List Char → Option Criterion
  | 0, _ => none
  | steps + 1, cs => do readWords (readSteps steps) (← words? cs)

/-- The criterion that a text says, if it says one. Every group is shorter than what it is in. -/
def read (cs : List Char) : Option Criterion := readSteps (cs.length + 1) cs

/-- Whether an `or` stands outside the quotes and brackets of a text. -/
def HasBareOr (cs : List Char) : Prop := ∃ words, words? cs = some words ∧ orWord ∈ words

/-! ## Cutting into words -/

namespace Cut

/-- A text is taken by taking its parts one behind the other. -/
theorem run_append (s : Cut) (a b : List Char) :
    s.run (a ++ b) = do
      let (words, s) ← s.run a
      let (more, s) ← s.run b
      return (words ++ more, s) := by
  induction a generalizing s with
  | nil =>
    simp only [List.nil_append, run, Option.bind_eq_bind, Option.bind_some, Option.pure_def]
    cases s.run b <;> rfl
  | cons c a ih =>
    simp only [List.cons_append, run, ih, Option.bind_eq_bind, Option.pure_def]
    cases s.step c with
    | none => rfl
    | some front =>
      obtain ⟨words, s⟩ := front
      simp only [Option.bind_some]
      cases s.run a with
      | none => rfl
      | some middle =>
        obtain ⟨more, s⟩ := middle
        simp only [Option.bind_some]
        cases s.run b with
        | none => rfl
        | some back => simp only [Option.bind_some, List.append_assoc]

/-- Two texts one behind the other, from how far each is cut. -/
theorem run_append_of_run {s s' s'' : Cut} {a b : List Char} {words more : List Word}
    (ha : s.run a = some (words, s')) (hb : s'.run b = some (more, s'')) :
    s.run (a ++ b) = some (words ++ more, s'') := by
  rw [run_append, ha]
  simp only [Option.bind_eq_bind, Option.bind_some, hb]
  rfl

/-- A space outside brackets and quotes ends a word. -/
theorem run_space {s : Cut} (h : s.isClosed) : s.run [' '] = some (s.ended, start) := by
  obtain ⟨word, depth, quoted⟩ := s
  simp only [isClosed, Bool.and_eq_true, decide_eq_true_eq, Bool.not_eq_true'] at h
  obtain ⟨rfl, rfl⟩ := h
  simp [run, step, opens, closes]

end Cut

/-- The words of a text are those that end within it, and the one that ends with it. -/
theorem words?_eq_some {cs : List Char} {words : List Word} :
    words? cs = some words ↔
      ∃ front s, Cut.start.run cs = some (front, s) ∧ s.isClosed ∧ words = front ++ s.ended := by
  unfold words?
  cases Cut.start.run cs with
  | none => simp
  | some cut =>
    obtain ⟨front, s⟩ := cut
    simp only [Option.bind_eq_bind, Option.bind_some, Option.some.injEq, Prod.mk.injEq]
    by_cases h : s.isClosed
    · rw [if_pos h]
      constructor
      · intro hwords
        exact ⟨front, s, ⟨rfl, rfl⟩, h, (Option.some.inj hwords).symm⟩
      · rintro ⟨_, _, ⟨rfl, rfl⟩, _, rfl⟩
        rfl
    · rw [if_neg h]
      constructor
      · intro hwords
        cases hwords
      · rintro ⟨_, _, ⟨rfl, rfl⟩, hclosed, _⟩
        exact absurd hclosed h

/-- The words of two texts with a space between them. -/
theorem words?_space {a b : List Char} {words more : List Word} (ha : words? a = some words)
    (hb : words? b = some more) : words? (a ++ ' ' :: b) = some (words ++ more) := by
  obtain ⟨front, s, hrun, hclosed, rfl⟩ := words?_eq_some.mp ha
  obtain ⟨front', s', hrun', hclosed', rfl⟩ := words?_eq_some.mp hb
  have hspace : s.run (' ' :: b) = some (s.ended ++ front', s') :=
    Cut.run_append_of_run (Cut.run_space hclosed) hrun'
  refine words?_eq_some.mpr ⟨_, s', Cut.run_append_of_run hrun hspace, hclosed', ?_⟩
  simp only [List.append_assoc]

/-! ## Conjunctions -/

/-- A conjunction from the left holds if each of its members does. -/
theorem eval_foldl_conjunction (truth : List Word → Bool) (c : Criterion) (cs : List Criterion) :
    (cs.foldl conjunction c).eval truth = (c.eval truth && cs.all (eval truth)) := by
  induction cs generalizing c with
  | nil => simp
  | cons d cs ih => rw [List.foldl_cons, ih, eval, List.all_cons, Bool.and_assoc]

/-- So combined criteria hold if each of them does. -/
theorem eval_combine_conjunction {cs : List Criterion} {c : Criterion}
    (h : combine conjunction cs = some c) (truth : List Word → Bool) :
    c.eval truth = cs.all (eval truth) := by
  cases cs with
  | nil => cases h
  | cons d cs =>
    cases h
    rw [eval_foldl_conjunction, List.all_cons]

variable {readGroup : List Char → Option Criterion}

/-- Without an `or` the words are one conjunction. -/
theorem readWords_eq_readConjunction {words : List Word} (h : orWord ∉ words) :
    readWords readGroup words = readConjunction readGroup words := by
  unfold readWords
  rw [List.splitOn_eq_singleton h, List.mapM_cons, List.mapM_nil]
  cases readConjunction readGroup words <;> rfl

/-- A conjunction is read unit by unit, between the words `and`. -/
theorem readConjunction_eq_some {words : List Word} {c : Criterion} :
    readConjunction readGroup words = some c ↔
      ∃ cs, (words.splitOn andWord).mapM (readUnit readGroup) = some cs ∧
        combine conjunction cs = some c := by
  unfold readConjunction
  cases (words.splitOn andWord).mapM (readUnit readGroup) <;> simp

/-- An `and` between words without an `or` is the conjunction of the two sides. -/
theorem readWords_and {words more : List Word} {a b : Criterion} (hwords : orWord ∉ words)
    (hmore : orWord ∉ more) (ha : readWords readGroup words = some a)
    (hb : readWords readGroup more = some b) :
    orWord ∉ words ++ andWord :: more ∧
      ∃ c, readWords readGroup (words ++ andWord :: more) = some c ∧
        ∀ truth, c.eval truth = (a.eval truth && b.eval truth) := by
  have hor : orWord ∉ words ++ andWord :: more := by
    rw [List.mem_append, List.mem_cons]
    rintro (h | h | h)
    · exact hwords h
    · exact absurd h (by decide)
    · exact hmore h
  refine ⟨hor, ?_⟩
  rw [readWords_eq_readConjunction hwords] at ha
  rw [readWords_eq_readConjunction hmore] at hb
  rw [readWords_eq_readConjunction hor]
  obtain ⟨as, has, ha⟩ := readConjunction_eq_some.mp ha
  obtain ⟨bs, hbs, hb⟩ := readConjunction_eq_some.mp hb
  obtain ⟨c, hc⟩ : ∃ c, combine conjunction (as ++ bs) = some c := by
    cases as with
    | nil => cases ha
    | cons d ds => exact ⟨_, rfl⟩
  refine ⟨c, readConjunction_eq_some.mpr ⟨as ++ bs, ?_, hc⟩, fun truth => ?_⟩
  · rw [List.splitOn_append_cons_self, List.mapM_append, has, hbs]
    rfl
  · rw [eval_combine_conjunction hc, eval_combine_conjunction ha, eval_combine_conjunction hb,
      List.all_append]

example : read "a eq 'x or y' or not (b or c) and d".toList = some
    (.disjunction (.atom ["a".toList, "eq".toList, "'x or y'".toList])
      (.conjunction (.negation (.disjunction (.atom ["b".toList]) (.atom ["c".toList])))
        (.atom ["d".toList]))) := by decide +kernel

/-! ## More steps -/

/-- Whether a reader reads whatever another one does, and as the same. -/
def Extends {α β : Type} (larger smaller : α → Option β) : Prop :=
  ∀ a b, smaller a = some b → larger a = some b

/-- A reader that extends another one does so on lists. -/
theorem Extends.mapM {α β : Type} {larger smaller : α → Option β} (h : Extends larger smaller) :
    Extends (List.mapM larger) (List.mapM smaller) := by
  intro as
  induction as with
  | nil => exact fun _ => id
  | cons a as ih =>
    intro bs hbs
    rw [List.mapM_cons] at hbs ⊢
    simp only [Option.bind_eq_bind, Option.bind_eq_some_iff] at hbs ⊢
    obtain ⟨b, hb, rest, hrest, hbs⟩ := hbs
    exact ⟨b, h a b hb, rest, ih rest hrest, hbs⟩

section Extension

variable {larger smaller : List Char → Option Criterion} (h : Extends larger smaller)

include h

/-- A reader that reads more groups reads more units. -/
theorem Extends.readUnit : Extends (readUnit larger) (readUnit smaller) := by
  intro words
  induction words with
  | nil => exact fun _ => id
  | cons word words ih =>
    intro c hc
    unfold Criterion.readUnit at hc ⊢
    split_ifs at hc ⊢ with hnot
    · rw [Option.map_eq_map, Option.map_eq_some_iff] at hc ⊢
      obtain ⟨d, hd, rfl⟩ := hc
      exact ⟨d, ih d hd, rfl⟩
    · exact h _ c hc
    · exact hc

theorem Extends.readConjunction : Extends (readConjunction larger) (readConjunction smaller) := by
  intro words c hc
  obtain ⟨cs, hcs, hc⟩ := readConjunction_eq_some.mp hc
  exact readConjunction_eq_some.mpr ⟨cs, h.readUnit.mapM _ cs hcs, hc⟩

theorem Extends.readWords : Extends (readWords larger) (readWords smaller) := by
  intro words c hc
  unfold Criterion.readWords at hc ⊢
  simp only [Option.bind_eq_bind, Option.bind_eq_some_iff] at hc ⊢
  obtain ⟨cs, hcs, hc⟩ := hc
  exact ⟨cs, h.readConjunction.mapM _ cs hcs, hc⟩

end Extension

/-- With one more step, no less is read. -/
theorem readSteps_succ (n : ℕ) : Extends (readSteps (n + 1)) (readSteps n) := by
  induction n with
  | zero =>
    intro cs c hc
    cases hc
  | succ n ih =>
    intro cs c hc
    rw [readSteps] at hc ⊢
    simp only [Option.bind_eq_bind, Option.bind_eq_some_iff] at hc ⊢
    obtain ⟨words, hwords, hc⟩ := hc
    exact ⟨words, hwords, ih.readWords words c hc⟩

/-- With more steps a text is read as the same. -/
theorem readSteps_mono {m n : ℕ} (h : m ≤ n) : Extends (readSteps n) (readSteps m) := by
  induction n, h using Nat.le_induction with
  | base => exact fun _ _ => id
  | succ n _ ih => exact fun cs c hc => readSteps_succ n cs c (ih cs c hc)

end Criterion

end ContentGateway
