import Mathlib
import ContentGateway.Proofs.Json.Numeral
import ContentGateway.Proofs.Json.Reading
import ContentGateway.Proofs.Json.Text
import ContentGateway.Proofs.Steps
import ContentGateway.Proofs.Text.Basic
import ContentGateway.Proofs.Value.Fields

/-!
# Written JSON reads back

A value made of the kinds of JSON, with numbers short enough for text and without a name twice in an
object, is written so that it reads back as itself, in either layout. What is written for a part is
read in front of anything that no number goes on with; the separators are a comma and blanks, and
between brackets only blanks come first and last, so the readers of lists and of objects pass over
them alike.

The readers count their steps. A part takes fewer than twice as many as it has characters.
-/

namespace ContentGateway

/-- A value of JSON that has a text: its whole numbers are short enough, and no object has a name
twice. -/
inductive Value.IsDocument : Value → Prop
  | null : IsDocument .null
  | bool (b : Bool) : IsDocument (.bool b)
  | int {i : ℤ} (h : i.natAbs < 10 ^ Decimal.digitLimit) : IsDocument (.int i)
  | float (x : Binary64) : IsDocument (.float x)
  | text (s : String) : IsDocument (.text s)
  | unpaired (t : Text.Broken) : IsDocument (.unpaired t)
  | list {items : List Value} (h : ∀ v ∈ items, IsDocument v) : IsDocument (.list items)
  | dict {fields : Fields} (hnames : (fields.map Prod.fst).Nodup)
      (h : ∀ field ∈ fields, IsDocument field.2) : IsDocument (.dict fields)

/-- What an object has under a name can be written if the object can. -/
theorem Value.IsDocument.get {fields : Fields} (h : (Value.dict fields).IsDocument)
    (name : String) :
    (Fields.get fields name).IsDocument := by
  cases h with
  | dict _ h =>
    rw [Fields.get]
    cases hfound : fields.find? name with
    | none => exact .null
    | some v => exact h _ (Fields.mem_of_find? hfound)

namespace Json

/-! ## Blanks -/

theorem skipBlanks_cons {c : Char} (h : isBlank c = false) (cs : List Char) :
    skipBlanks (c :: cs) = c :: cs :=
  List.dropWhile_cons_of_neg (by simp [h])

/-- Blanks at the front are skipped. -/
theorem skipBlanks_append {blanks : List Char} (h : ∀ c ∈ blanks, isBlank c) (cs : List Char) :
    skipBlanks (blanks ++ cs) = skipBlanks cs :=
  List.dropWhile_append_of_pos h

/-- The start of a line is made of blanks. -/
theorem isBlank_newLine (layout : Layout) (depth : ℕ) : ∀ c ∈ layout.newLine depth, isBlank c := by
  cases layout with
  | oneLine => exact List.forall_mem_nil _
  | indented =>
    refine List.forall_mem_cons.mpr ⟨rfl, fun c hc => ?_⟩
    rw [List.eq_of_mem_replicate hc]
    rfl

/-- A comma and blanks stand between two items. -/
theorem between_eq (layout : Layout) (depth : ℕ) :
    ∃ blanks, layout.between depth = ',' :: blanks ∧ ∀ c ∈ blanks, isBlank c := by
  cases layout with
  | oneLine => exact ⟨[' '], rfl, by simp [isBlank]⟩
  | indented => exact ⟨_, rfl, isBlank_newLine .indented depth⟩

theorem endsNumber_nil : EndsNumber [] := fun _ h => nomatch h

/-- No number goes on with what may stand behind a value. -/
theorem endsNumber_cons {c : Char} (h : c ∈ [',', ']', '\x7d', '\n', ' ']) (cs : List Char) :
    EndsNumber (c :: cs) := by
  intro d hd
  obtain rfl := Option.some.inj hd
  simp only [List.mem_cons, List.not_mem_nil, or_false] at h
  rcases h with rfl | rfl | rfl | rfl | rfl <;> decide

/-- No number goes on behind the last part of a list or an object. -/
theorem endsNumber_newLine (layout : Layout) (depth : ℕ) {closing : Char}
    (hclosing : closing ∈ [']', '\x7d']) (rest : List Char) :
    EndsNumber (layout.newLine depth ++ closing :: rest) := by
  cases layout with
  | oneLine =>
    simp only [List.mem_cons, List.not_mem_nil, or_false] at hclosing
    rcases hclosing with rfl | rfl <;> exact endsNumber_cons (by simp) rest
  | indented => exact endsNumber_cons (by simp) _

/-! ## Parts and their separators -/

/-- Whether a character can begin a value: no blank, no closing bracket, and no byte order mark. -/
def IsFirst (c : Char) : Prop := c ∉ [' ', '\t', '\n', '\r', ']', '\x7d', '\ufeff']

instance (c : Char) : Decidable (IsFirst c) := inferInstanceAs (Decidable (¬ _))

/-- A character that can begin a value is no blank. -/
theorem IsFirst.isBlank {c : Char} (h : IsFirst c) : isBlank c = false := by
  simp only [IsFirst, List.mem_cons, List.not_mem_nil, or_false, not_or] at h
  simp [Json.isBlank, h]

theorem IsFirst.ne_mark {c : Char} (h : IsFirst c) : c ≠ '\ufeff' := by
  rintro rfl
  exact absurd h (by decide)

/-- A digit can begin a value. -/
theorem isFirst_of_isDigit {d : Char} (h : d.isDigit) : IsFirst d := by
  intro hd
  simp only [List.mem_cons, List.not_mem_nil, or_false] at hd
  rcases hd with rfl | rfl | rfl | rfl | rfl | rfl | rfl <;> exact absurd h (by decide)

/-- Whether a form at the front of a text is read as what it stands for, in fewer than twice as many
steps as it has characters. -/
structure ReadBy {α : Type} (readPart : ℕ → List Char → Step (Front α)) (form : List Char)
    (a : α) : Prop where
  begins : ∃ c cs, form = c :: cs ∧ IsFirst c
  read : ∀ steps rest, 2 * form.length ≤ steps + 1 → EndsNumber rest →
    readPart steps (form ++ rest) = .ok (a, rest)

section Parts

variable {α : Type} {readPart : ℕ → List Char → Step (Front α)}
  {readParts : ℕ → List Char → Step (Front (List α))} {closing : Char} {layout : Layout}

/-- A part passes the blanks in front of it. -/
theorem ReadBy.skipBlanks_append {form : List Char} {a : α} (h : ReadBy readPart form a)
    {blanks : List Char} (hblanks : ∀ c ∈ blanks, isBlank c) (rest : List Char) :
    skipBlanks (blanks ++ (form ++ rest)) = form ++ rest := by
  obtain ⟨c, cs, rfl, hc⟩ := h.begins
  rw [Json.skipBlanks_append hblanks, List.cons_append, skipBlanks_cons hc.isBlank]

/-- A reader of parts that reads one part and goes on behind it reads parts with separators between
them. By induction on the parts. -/
theorem readParts_forms
    (hstep : ∀ steps cs, readParts (steps + 1) cs = readPart steps cs >>= fun front =>
      afterItem closing front.2 front.1 (readParts steps))
    (hclosing : closing ∈ [']', '\x7d']) {depth depth' : ℕ} {forms : List (List Char)} {as : List α}
    (h : List.Forall₂ (ReadBy readPart) forms as) (hne : forms ≠ []) {steps : ℕ}
    (hsteps : 2 * ((layout.between depth).intercalate forms).length ≤ steps) (rest : List Char) :
    readParts steps ((layout.between depth).intercalate forms ++
      (layout.newLine depth' ++ closing :: rest)) = .ok (as, rest) := by
  have hblank : isBlank closing = false := by
    simp only [List.mem_cons, List.not_mem_nil, or_false] at hclosing
    rcases hclosing with rfl | rfl <;> rfl
  -- behind the last part the bracket ends the list, behind any other a comma leads to the next
  have hlast : ∀ a next, afterItem closing (layout.newLine depth' ++ closing :: rest) a next =
      (.ok ([a], rest) : Step (Front (List α))) := by
    intro a next
    rw [afterItem, skipBlanks_append (isBlank_newLine layout depth'), skipBlanks_cons hblank]
    exact if_pos rfl
  obtain ⟨blanks, hbetween, hblanks⟩ := between_eq layout depth
  induction h generalizing steps with
  | nil => exact absurd rfl hne
  | @cons form a forms as hform hforms ih =>
    obtain ⟨c, cs, hform', -⟩ := hform.begins
    have hpos : 0 < form.length := by
      rw [hform']
      exact Nat.succ_pos _
    cases hforms with
    | nil =>
      rw [List.intercalate_singleton] at hsteps ⊢
      obtain ⟨n, rfl⟩ : ∃ n, steps = n + 1 := ⟨steps - 1, by omega⟩
      rw [hstep, hform.read n _ (by omega) (endsNumber_newLine layout depth' hclosing rest)]
      exact hlast a _
    | @cons next b forms bs hnext hforms =>
      rw [List.intercalate_cons_cons, List.length_append, List.length_append] at hsteps
      rw [List.intercalate_cons_cons]
      obtain ⟨n, rfl⟩ : ∃ n, steps = n + 1 := ⟨steps - 1, by omega⟩
      obtain ⟨tail, htail⟩ := Text.exists_intercalate_cons (layout.between depth) next forms
      generalize (layout.between depth).intercalate (next :: forms) = inner at *
      have hlength : (layout.between depth).length = blanks.length + 1 := by
        rw [hbetween, List.length_cons]
      have hrest : readParts n (inner ++ (layout.newLine depth' ++ closing :: rest)) =
          .ok (b :: bs, rest) := ih (List.cons_ne_nil _ _) (by omega)
      have hcomma : ¬ ',' = closing := by
        simp only [List.mem_cons, List.not_mem_nil, or_false] at hclosing
        rcases hclosing with rfl | rfl <;> decide
      rw [List.append_assoc, List.append_assoc, hstep,
        hform.read n _ (by omega) (hbetween ▸ endsNumber_cons (by simp) _)]
      show afterItem closing (layout.between depth ++ _) a (readParts n) = _
      rw [hbetween, afterItem, List.cons_append, skipBlanks_cons rfl]
      dsimp only
      rw [if_neg hcomma, if_pos rfl, htail, List.append_assoc, hnext.skipBlanks_append hblanks,
        ← List.append_assoc, ← htail, hrest]
      rfl

end Parts

/-! ## Single values -/

/-- A text that begins like no text, list or object holds a word or a number. -/
theorem readValue_other (steps : ℕ) {c : Char} (hquote : c ≠ '"') (hbracket : c ≠ '[')
    (hbrace : c ≠ '\x7b') (cs : List Char) :
    readValue (steps + 1) (c :: cs) =
      match readWord? (c :: cs) with
      | some found => .ok found
      | none => readNumber (c :: cs) := by
  rw [readValue.eq_def]
  dsimp only
  split
  · next heq => exact absurd (List.cons.inj heq).1 hquote
  · next heq => exact absurd (List.cons.inj heq).1 hbracket
  · next heq => exact absurd (List.cons.inj heq).1 hbrace
  · rfl

/-- A value that is written as a word reads back. -/
theorem readBy_word {word : String} {v : Value} (h : (word, v) ∈ words) :
    ReadBy readValue word.toList v := by
  have hword : ∀ (c : Char) (cs : List Char), word.toList = c :: cs →
      (c ≠ '"' ∧ c ≠ '[' ∧ c ≠ '\x7b') → IsFirst c →
      (∀ rest, readWord? (c :: (cs ++ rest)) = some (v, (c :: (cs ++ rest)).drop word.length)) →
      ReadBy readValue word.toList v := by
    intro c cs hcs hc hbegins hread
    have hlength : word.length = (c :: cs).length := by rw [← hcs, String.length_toList]
    simp only [hlength, ← List.cons_append, List.drop_left] at hread
    refine ⟨⟨c, cs, hcs, hbegins⟩, fun steps rest hsteps _ => ?_⟩
    obtain ⟨n, rfl⟩ : ∃ n, steps = n + 1 := by
      rw [hcs, List.length_cons] at hsteps
      exact ⟨steps - 1, by omega⟩
    rw [hcs, List.cons_append, readValue_other n hc.1 hc.2.1 hc.2.2, ← List.cons_append, hread rest]
  simp only [words, List.mem_cons, Prod.mk.injEq, List.not_mem_nil, or_false] at h
  rcases h with ⟨rfl, rfl⟩ | ⟨rfl, rfl⟩ | ⟨rfl, rfl⟩ | ⟨rfl, rfl⟩ | ⟨rfl, rfl⟩ | ⟨rfl, rfl⟩
  · exact hword 'n' ['u', 'l', 'l'] (by simp) (by decide) (by decide)
      fun rest => by simp [readWord?, words]
  · exact hword 't' ['r', 'u', 'e'] (by simp) (by decide) (by decide)
      fun rest => by simp [readWord?, words]
  · exact hword 'f' ['a', 'l', 's', 'e'] (by simp) (by decide) (by decide)
      fun rest => by simp [readWord?, words]
  · exact hword 'N' ['a', 'N'] (by simp) (by decide) (by decide)
      fun rest => by simp [readWord?, words]
  · exact hword 'I' ['n', 'f', 'i', 'n', 'i', 't', 'y'] (by simp) (by decide) (by decide)
      fun rest => by simp [readWord?, words]
  · exact hword '-' ['I', 'n', 'f', 'i', 'n', 'i', 't', 'y'] (by simp) (by decide) (by decide)
      fun rest => by simp [readWord?, words]

/-- A text that begins like a number holds no word. -/
theorem readWord?_number (negative : Bool) {d : Char} (hd : d.isDigit) (cs : List Char) :
    readWord? (signOf negative ++ d :: cs) = none := by
  have hne : ∀ c : Char, c.isDigit = false → ¬ c = d := by
    rintro c hc rfl
    rw [hd] at hc
    cases hc
  have hn := hne 'n' (by decide)
  have ht := hne 't' (by decide)
  have hf := hne 'f' (by decide)
  have hN := hne 'N' (by decide)
  have hI := hne 'I' (by decide)
  have hminus := hne '-' (by decide)
  cases negative <;> simp [readWord?, words, signOf, hn, ht, hf, hN, hI, hminus]

/-- A number begins with its sign or a digit, and so like no text, list or object. -/
theorem exists_number_eq_cons (negative : Bool) {d : Char} (hd : d.isDigit) (ds : List Char) :
    ∃ c cs, signOf negative ++ d :: ds = c :: cs ∧
      IsFirst c ∧ c ≠ '"' ∧ c ≠ '[' ∧ c ≠ '\x7b' := by
  have hne : ∀ c : Char, c.isDigit = false → d ≠ c := by
    rintro c hc rfl
    rw [hd] at hc
    cases hc
  cases negative with
  | false =>
    exact ⟨d, ds, rfl, isFirst_of_isDigit hd, hne _ (by decide), hne _ (by decide),
      hne _ (by decide)⟩
  | true => exact ⟨'-', d :: ds, rfl, by decide⟩

/-- A number that is read behind its sign reads as a value. -/
theorem readBy_number (negative : Bool) {digits : List Char} {v : Value} {d : Char}
    {ds : List Char} (hdigits : digits = d :: ds) (hd : d.isDigit)
    (h : ∀ rest, EndsNumber rest →
      readNumber (signOf negative ++ (digits ++ rest)) = .ok (v, rest)) :
    ReadBy readValue (signOf negative ++ digits) v := by
  obtain ⟨c, cs, hcs, hfirst, hquote, hopen, hopen'⟩ := exists_number_eq_cons negative hd ds
  rw [← hdigits] at hcs
  refine ⟨⟨c, cs, hcs, hfirst⟩, fun steps rest hsteps hrest => ?_⟩
  obtain ⟨n, rfl⟩ : ∃ n, steps = n + 1 := by
    rw [hcs, List.length_cons] at hsteps
    exact ⟨steps - 1, by omega⟩
  have hword : readWord? (c :: (cs ++ rest)) = none := by
    rw [← List.cons_append, ← hcs, hdigits, List.append_assoc, List.cons_append]
    exact readWord?_number negative hd _
  rw [hcs, List.cons_append, readValue_other n hquote hopen hopen', hword]
  dsimp only
  rw [← List.cons_append, ← hcs, List.append_assoc, h rest hrest]

/-- A whole number that is short enough is read back from its text. -/
theorem readBy_int {i : ℤ} (hi : i.natAbs < 10 ^ Decimal.digitLimit) :
    ReadBy readValue (Decimal.intText i).toList (.int i) := by
  obtain ⟨d, ds, hdigits⟩ := List.exists_cons_of_ne_nil (Decimal.natDigits_ne_nil i.natAbs)
  have hd : d.isDigit := Decimal.isDigit_of_mem_natDigits (hdigits ▸ List.mem_cons_self)
  have hread : ∀ rest, EndsNumber rest →
      readNumber ((Decimal.intText i).toList ++ rest) = .ok (.int i, rest) :=
    fun rest => readNumber_intText hi
  rw [toList_intText] at hread ⊢
  simp only [List.append_assoc] at hread
  exact readBy_number _ hdigits hd hread

/-- A binary64 number is read back from its form. -/
theorem readBy_float (x : Binary64) : ReadBy readValue (numberForm x) (.float x) := by
  cases x with
  | nan => exact readBy_word (by simp [words])
  | infinite negative => cases negative <;> exact readBy_word (by simp [words])
  | finite negative rank =>
    obtain ⟨d, ds, hds, hd⟩ := exists_rankText_eq_cons rank
    rw [numberForm_finite]
    exact readBy_number negative hds hd fun rest => readNumber_rankText negative rank

/-- What is read as points up to the closing quote reads, between quotes, as their text. -/
theorem readBy_readQuoted {inner : List Char} {ps : List Text.Point}
    (h : ∀ rest, readQuoted (inner ++ '"' :: rest) = .ok (ps, rest)) :
    ReadBy readValue ('"' :: inner ++ ['"']) (.ofPoints ps) := by
  refine ⟨⟨'"', _, rfl, by decide⟩, fun steps rest hsteps _ => ?_⟩
  obtain ⟨n, rfl⟩ : ∃ n, steps = n + 1 := by
    rw [List.cons_append, List.length_cons] at hsteps
    exact ⟨steps - 1, by omega⟩
  rw [List.append_assoc]
  show (readQuoted (inner ++ '"' :: rest) >>= _) = _
  rw [h]
  rfl

/-- A string between quotes reads back, whatever forms its characters are written in. -/
theorem readBy_quoted {form : Char → List Char} (hform : ∀ c, ReadsAs (form c) (.char c))
    (s : String) : ReadBy readValue ('"' :: s.toList.flatMap form ++ ['"']) (.text s) := by
  have hread := readBy_readQuoted (readQuoted_chars hform s.toList)
  rwa [Value.ofPoints_points, String.ofList_toList] at hread

/-- A text is read back from its form. -/
theorem readBy_text (s : String) : ReadBy readValue (textForm s) (.text s) :=
  readBy_quoted readsAs_textChar s

/-- So is a broken text. -/
theorem readBy_unpaired (t : Text.Broken) : ReadBy readValue (brokenForm t) (.unpaired t) := by
  have hread := readBy_readQuoted (readQuoted_forms readsAs_pointForm t.hasPair_eq_false)
  rwa [Value.ofPoints_broken] at hread

/-! ## Lists and objects -/

def readField (steps : ℕ) (cs : List Char) : Step (Front (String × Value)) := do
  let (name, rest) ← readName cs
  let (v, rest) ← readValue steps rest
  return ((name, v), rest)

/-- Items are read one at a time. -/
theorem readItems_step (steps : ℕ) (cs : List Char) :
    readItems (steps + 1) cs = readValue steps cs >>= fun front =>
      afterItem ']' front.2 front.1 (readItems steps) := by
  rw [readItems]

theorem readFields_step (steps : ℕ) (cs : List Char) :
    readFields (steps + 1) cs = readField steps cs >>= fun front =>
      afterItem '\x7d' front.2 front.1 (readFields steps) := by
  rw [readFields, readField]
  cases readName cs with
  | error stop => rfl
  | ok front =>
    obtain ⟨name, rest⟩ := front
    show (readValue steps rest >>= _) = (readValue steps rest >>= _) >>= _
    cases readValue steps rest <;> rfl

/-- A name, a colon and the form of a value read as a field. -/
theorem readBy_field {form : List Char} {v : Value} (h : ReadBy readValue form v) (name : String) :
    ReadBy readField (textForm name ++ ':' :: ' ' :: form) (name, v) := by
  refine ⟨⟨'"', _, rfl, by decide⟩, fun steps rest hsteps hrest => ?_⟩
  simp only [List.length_append, List.length_cons] at hsteps
  have hspace : ∀ c ∈ [' '], isBlank c := by simp [isBlank]
  have hname : readName (textForm name ++ ':' :: ' ' :: form ++ rest) =
      .ok (name, form ++ rest) := by
    rw [textForm, List.append_assoc, List.append_assoc]
    show (readQuoted (name.toList.flatMap textChar ++
      '"' :: ':' :: ' ' :: (form ++ rest)) >>= _) = _
    rw [readQuoted_chars readsAs_textChar]
    show Except.ok (Text.mended (Text.points name.toList),
      skipBlanks ([' '] ++ (form ++ rest))) = _
    rw [Text.mended_points, String.ofList_toList, h.skipBlanks_append hspace]
  unfold readField
  rw [hname]
  show (readValue steps (form ++ rest) >>= _) = _
  rw [h.read steps rest (by omega) hrest]
  rfl

section Enclosed

variable {α : Type} {readPart : ℕ → List Char → Step (Front α)}
  {readParts : ℕ → List Char → Step (Front (List α))} {opening closing : Char}
  (close : List α → Value)

/-- Parts between brackets read as the value that is made of them, by a reader that takes the parts
behind the opening bracket. -/
theorem readBy_enclose
    (hstep : ∀ steps cs, readParts (steps + 1) cs = readPart steps cs >>= fun front =>
      afterItem closing front.2 front.1 (readParts steps))
    (hbegins : IsFirst opening)
    (hclosing : closing ∈ [']', '\x7d'])
    (hempty : ∀ steps rest, readValue (steps + 1) (opening :: closing :: rest) =
      .ok (close [], rest))
    (hread : ∀ steps cs c ds, skipBlanks cs = c :: ds → c ≠ closing →
      readValue (steps + 1) (opening :: cs) =
        readParts steps (c :: ds) >>= fun front => .ok (close front.1, front.2))
    (layout : Layout) (depth : ℕ) {forms : List (List Char)} {as : List α}
    (h : List.Forall₂ (ReadBy readPart) forms as) :
    ReadBy readValue (layout.enclose depth opening closing forms) (close as) := by
  cases h with
  | nil =>
    refine ⟨⟨opening, _, rfl, hbegins⟩, fun steps rest hsteps _ => ?_⟩
    obtain ⟨n, rfl⟩ : ∃ n, steps = n + 1 := ⟨steps - 1, by simp [Layout.enclose] at hsteps; omega⟩
    exact hempty n rest
  | @cons form a forms as hform hforms =>
    obtain ⟨c, cs, hcs, hfirst⟩ := hform.begins
    obtain ⟨inner, hinner⟩ : ∃ inner,
        inner = (layout.between (depth + 1)).intercalate (form :: forms) := ⟨_, rfl⟩
    obtain ⟨tail, htail⟩ : ∃ tail, inner = c :: tail := by
      obtain ⟨tail, htail⟩ := Text.exists_intercalate_cons (layout.between (depth + 1)) form forms
      exact ⟨cs ++ tail, by rw [hinner, htail, hcs, List.cons_append]⟩
    have hform' : layout.enclose depth opening closing (form :: forms) =
        opening :: (layout.newLine (depth + 1) ++
          (inner ++ (layout.newLine depth ++ [closing]))) := by
      rw [Layout.enclose, if_neg (by simp), hinner]
      simp
    rw [hform']
    refine ⟨⟨opening, _, rfl, hbegins⟩, fun steps rest hsteps _ => ?_⟩
    simp only [List.length_cons, List.length_append] at hsteps
    obtain ⟨n, rfl⟩ : ∃ n, steps = n + 1 := ⟨steps - 1, by omega⟩
    have hparts : readParts n (inner ++ (layout.newLine depth ++ closing :: rest)) =
        .ok (a :: as, rest) := by
      rw [hinner] at hsteps ⊢
      exact readParts_forms hstep hclosing (.cons hform hforms) (List.cons_ne_nil _ _) (by omega)
        rest
    rw [htail] at hparts
    have hskip : skipBlanks (layout.newLine (depth + 1) ++ (inner ++ (layout.newLine depth ++
        [closing])) ++ rest) = c :: (tail ++ (layout.newLine depth ++ closing :: rest)) := by
      rw [List.append_assoc, skipBlanks_append (isBlank_newLine layout _), htail]
      simp [skipBlanks_cons hfirst.isBlank]
    have hc : c ≠ closing := by
      rintro rfl
      simp only [List.mem_cons, List.not_mem_nil, or_false] at hclosing
      rcases hclosing with rfl | rfl <;> exact absurd hfirst (by decide)
    rw [List.cons_append, hread n _ c _ hskip hc, ← List.cons_append, hparts]
    rfl

end Enclosed

/-- The forms of parts between square brackets read as a list. -/
theorem readBy_list (layout : Layout) (depth : ℕ) {forms : List (List Char)} {items : List Value}
    (h : List.Forall₂ (ReadBy readValue) forms items) :
    ReadBy readValue (layout.enclose depth '[' ']' forms) (.list items) := by
  refine readBy_enclose .list readItems_step (by decide) (by simp) (fun _ _ => rfl) ?_ layout
    depth h
  intro steps cs c ds hskip hc
  rw [readValue, hskip]
  split
  · next heq => exact absurd (List.cons.inj heq).1 hc
  · rfl

/-- The forms of fields between braces read as an object. Of a name that is there twice the first
place and the last value count. -/
theorem readBy_object (layout : Layout) (depth : ℕ) {forms : List (List Char)}
    {fields : List (String × Value)} (h : List.Forall₂ (ReadBy readField) forms fields) :
    ReadBy readValue (layout.enclose depth '\x7b' '\x7d' forms) (.dict (Fields.ofList fields)) := by
  refine readBy_enclose (fun fields => .dict (Fields.ofList fields)) readFields_step (by decide)
    (by simp) (fun _ _ => rfl) ?_ layout depth h
  intro steps cs c ds hskip hc
  rw [readValue, hskip]
  split
  · next heq => exact absurd (List.cons.inj heq).1 hc
  · rfl

/-- The forms of fields with different names read as the object of these fields. -/
theorem readBy_dict (layout : Layout) (depth : ℕ) {forms : List (List Char)} {fields : Fields}
    (hnames : (fields.map Prod.fst).Nodup) (h : List.Forall₂ (ReadBy readField) forms fields) :
    ReadBy readValue (layout.enclose depth '\x7b' '\x7d' forms) (.dict fields) := by
  have hobject := readBy_object layout depth h
  rwa [Fields.ofList_of_nodup hnames] at hobject

/-! ## Values -/

variable (layout : Layout) (strictness : Strictness)

/-- Items whose forms are read back have forms that are. -/
theorem itemForms_ok {depth : ℕ} {items : List Value}
    (h : ∀ v ∈ items, ∃ form, valueForm layout strictness depth v = .ok form ∧
      ReadBy readValue form v) :
    ∃ forms, itemForms layout strictness depth items = .ok forms ∧
      List.Forall₂ (ReadBy readValue) forms items := by
  induction items with
  | nil => exact ⟨[], by rw [itemForms], .nil⟩
  | cons v items ih =>
    obtain ⟨hv, hitems⟩ := List.forall_mem_cons.mp h
    obtain ⟨form, hform, hread⟩ := hv
    obtain ⟨forms, hforms, hreads⟩ := ih hitems
    exact ⟨form :: forms, by rw [itemForms, hform, hforms]; rfl, .cons hread hreads⟩

/-- Fields whose values have forms that are read back have forms that are. -/
theorem fieldForms_ok {depth : ℕ} {fields : Fields}
    (h : ∀ field ∈ fields, ∃ form, valueForm layout strictness depth field.2 = .ok form ∧
      ReadBy readValue form field.2) :
    ∃ forms, fieldForms layout strictness depth fields = .ok forms ∧
      List.Forall₂ (ReadBy readField) forms fields := by
  induction fields with
  | nil => exact ⟨[], by rw [fieldForms], .nil⟩
  | cons field fields ih =>
    obtain ⟨hfield, hfields⟩ := List.forall_mem_cons.mp h
    obtain ⟨form, hform, hread⟩ := hfield
    obtain ⟨forms, hforms, hreads⟩ := ih hfields
    exact ⟨_ :: forms, by rw [fieldForms, hform, hforms]; rfl,
      .cons (readBy_field hread field.1) hreads⟩

/-- A value has a form at every depth, and it reads back in front of anything. -/
theorem valueForm_ok {v : Value} (hv : v.IsDocument) (depth : ℕ) :
    ∃ form, valueForm layout strictness depth v = .ok form ∧ ReadBy readValue form v := by
  induction hv generalizing depth with
  | null => exact ⟨_, by rw [valueForm], readBy_word (by simp [words])⟩
  | bool b => cases b <;> exact ⟨_, by rw [valueForm], readBy_word (by simp [words])⟩
  | int h => exact ⟨_, by rw [valueForm, Value.wholeText_ok h]; rfl, readBy_int h⟩
  | float x => exact ⟨_, by rw [valueForm], readBy_float x⟩
  | text s => exact ⟨_, by rw [valueForm], readBy_text s⟩
  | unpaired t => exact ⟨_, by rw [valueForm], readBy_unpaired t⟩
  | list _ ih =>
    obtain ⟨forms, hforms, hreads⟩ := itemForms_ok layout strictness fun v hv => ih v hv (depth + 1)
    exact ⟨_, by rw [valueForm, hforms]; rfl, readBy_list layout depth hreads⟩
  | dict hnames _ ih =>
    obtain ⟨forms, hforms, hreads⟩ := fieldForms_ok layout strictness fun field hfield =>
      ih field hfield (depth + 1)
    exact ⟨_, by rw [valueForm, hforms]; rfl, readBy_dict layout depth hnames hreads⟩

/-- No number goes on behind blanks. -/
theorem endsNumber_blanks {blanks : List Char} (h : ∀ c ∈ blanks, isBlank c) :
    EndsNumber blanks := by
  cases blanks with
  | nil => exact endsNumber_nil
  | cons c cs =>
    intro d hd
    obtain rfl := Option.some.inj hd
    have hc := h c List.mem_cons_self
    simp only [isBlank, Bool.or_eq_true, decide_eq_true_eq] at hc
    rcases hc with ((rfl | rfl) | rfl) | rfl <;> decide

/-- A form with blanks behind it is a text that holds the value. -/
theorem read_form {form blanks : List Char} {v : Value} (h : ReadBy readValue form v)
    (hblanks : ∀ c ∈ blanks, isBlank c) : read (String.ofList (form ++ blanks)) = .ok v := by
  obtain ⟨c, cs, hcs, hfirst⟩ := h.begins
  have hskip : skipBlanks (form ++ blanks) = form ++ blanks := by
    rw [hcs, List.cons_append, skipBlanks_cons hfirst.isBlank]
  have hvalue := h.read (2 * (form ++ blanks).length + 2) blanks
    (by rw [List.length_append]; omega) (endsNumber_blanks hblanks)
  have hrest : skipBlanks blanks = [] := List.dropWhile_eq_nil_iff.mpr hblanks
  have hwhole : readWhole (form ++ blanks) = .ok v := by
    rw [readWhole.eq_def]
    split
    · next heq =>
      rw [hcs, List.cons_append] at heq
      exact absurd (List.cons.inj heq).1 hfirst.ne_mark
    · rw [hskip, hvalue]
      simp only [bind, Except.bind, hrest]
      rfl
  unfold read
  dsimp only
  rw [String.toList_ofList, hwhole]

/-- What a value is written as reads back as the value, whatever blanks follow. -/
theorem read_write {v : Value} (hv : v.IsDocument) :
    ∃ s, write layout strictness v = .ok s ∧
      ∀ blanks : String, (∀ c ∈ blanks.toList, isBlank c) → read (s ++ blanks) = .ok v := by
  obtain ⟨form, hform, hread⟩ := valueForm_ok layout strictness hv 0
  refine ⟨String.ofList form, by rw [write, hform]; rfl, fun blanks hblanks => ?_⟩
  rw [← String.ofList_toList (s := blanks), ← String.ofList_append]
  exact read_form hread hblanks

/-- Being a value of JSON that has a text is kept by the reader. -/
theorem isKept_isDocument : IsKept Value.IsDocument where
  null := .null
  bool := .bool
  int _ := .int
  float := .float
  text := .text
  unpaired := .unpaired
  list _ := .list
  object fields h := .dict (Fields.nodup_ofList fields) (Fields.forall_mem_ofList h)

/-- What was read from a text can be written, and reads back. -/
theorem read_isDocument {s : String} {v : Value} (h : read s = .ok v) : v.IsDocument :=
  isKept_isDocument.of_read h

end Json

end ContentGateway
