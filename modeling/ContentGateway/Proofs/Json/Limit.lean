import Mathlib
import ContentGateway.Proofs.Json.RoundTrip

/-!
# Where the reader gives up

Reading a text goes through it from the front: every step leaves an end of what it began with. So
what stops a step somewhere is found in the text. The one stop that is no flaw of the text is a
whole number with more digits than are exchanged with text, and its digits stand in the text one
behind the other.
-/

namespace ContentGateway.Json

/-- Whether a text has so many digits in a row, more than are exchanged with text. -/
def HasRun (n : ℕ) (cs : List Char) : Prop :=
  Decimal.digitLimit < n ∧ ∃ digits, digits <:+: cs ∧ digits.length = n ∧ ∀ c ∈ digits, c.isDigit

/-- A run of digits in a part of a text is one in the text. -/
theorem HasRun.mono {n : ℕ} {part cs : List Char} (h : HasRun n part) (hpart : part <:+: cs) :
    HasRun n cs := by
  obtain ⟨hn, digits, hdigits, hlength, hall⟩ := h
  exact ⟨hn, digits, hdigits.trans hpart, hlength, hall⟩

variable {α β : Type} {cs rest : List Char}

/-- A step on a text that leaves an end of it, and is given up only for digits that are in it. -/
structure Walks (cs : List Char) (step : Step (Front α)) : Prop where
  rest : ∀ a rest, step = .ok (a, rest) → rest <:+ cs
  stop : ∀ n, step = .error (.digitLimit n) → HasRun n cs

namespace Walks

theorem ok {a : α} (h : rest <:+ cs) : Walks cs (.ok (a, rest) : Step (Front α)) where
  rest a rest h' := by
    cases h'
    exact h
  stop n h' := by cases h'

/-- A step that stops walks if it stops at a flaw, or at a run of digits in the text. -/
theorem error {stop : Stop} (h : ∀ n, stop = .digitLimit n → HasRun n cs) :
    Walks cs (.error stop : Step (Front α)) where
  rest a rest h' := by cases h'
  stop n h' := h n (Except.error.inj h')

/-- A step that stops at a flaw walks. -/
theorem flaw (f : Flaw) (left : ℕ) : Walks cs (.error (.flaw f left) : Step (Front α)) :=
  error fun _ h => by cases h

/-- A step on an end of a text is one on the text. -/
theorem of_suffix {step : Step (Front α)} (hrest : rest <:+ cs) (h : Walks rest step) :
    Walks cs step where
  rest a rest' hstep := (h.rest a rest' hstep).trans hrest
  stop n hstep := (h.stop n hstep).mono hrest.isInfix

/-- A step that goes on where another one stopped. -/
theorem bind {first : Step (Front α)} {next : Front α → Step (Front β)} (h : Walks cs first)
    (hnext : ∀ a rest, Walks rest (next (a, rest))) : Walks cs (first >>= next) := by
  cases hfirst : first with
  | error stop => exact error fun n hstop => h.stop n (hstop ▸ hfirst)
  | ok front =>
    obtain ⟨a, rest⟩ := front
    exact (hnext a rest).of_suffix (h.rest a rest hfirst)

end Walks

/-! ## Texts -/

theorem walks_readQuad (cs : List Char) : Walks cs (readQuad cs) := by
  rw [readQuad.eq_def]
  split
  · split
    · exact .ok (List.suffix_append [_, _, _, _] _)
    · exact .flaw _ _
  · exact .flaw _ _

/-- What the other half of a pair leaves is an end of the text. -/
theorem readLowHalf_cases (cs : List Char) :
    (∃ stop, readLowHalf cs = .error stop ∧ ∀ n, stop = .digitLimit n → HasRun n cs) ∨
      readLowHalf cs = .ok none ∨
      ∃ low rest, readLowHalf cs = .ok (some (low, rest)) ∧ rest <:+ cs := by
  rw [readLowHalf.eq_def]
  split
  · next rest =>
    have hrest : rest <:+ '\\' :: 'u' :: rest := List.suffix_append ['\\', 'u'] rest
    have hquad := (walks_readQuad rest).of_suffix hrest
    split
    · exact .inr (.inl rfl)
    cases hread : readQuad rest with
    | error stop => exact .inl ⟨stop, rfl, fun n hstop => hquad.stop n (hstop ▸ hread)⟩
    | ok front =>
      obtain ⟨low, rest'⟩ := front
      by_cases hlow : (decide (0xdc00 ≤ low) && decide (low < 0xe000)) = true
      · refine .inr (.inr ⟨low, rest', ?_, hquad.rest low rest' hread⟩)
        simp only [bind, Except.bind, hlow]
        rfl
      · refine .inr (.inl ?_)
        simp only [bind, Except.bind, hlow]
        rfl
  · exact .inr (.inl rfl)

theorem walks_readNumbered (cs : List Char) : Walks cs (readNumbered cs) := by
  refine (walks_readQuad cs).bind fun n rest => ?_
  dsimp only
  split
  · rcases readLowHalf_cases rest with ⟨stop, hlow, hstop⟩ | hlow | ⟨low, rest', hlow, hrest⟩
    · rw [hlow]
      exact .error hstop
    · rw [hlow]
      exact .ok (List.suffix_refl rest)
    · rw [hlow]
      exact .ok hrest
  · exact .ok (List.suffix_refl rest)

/-- Reading an escape walks. -/
theorem walks_readEscape (quote : ℕ) (cs : List Char) : Walks cs (readEscape quote cs) := by
  cases cs with
  | nil => exact .flaw _ _
  | cons c rest =>
    have hrest : rest <:+ c :: rest := List.suffix_cons c rest
    rw [readEscape]
    split_ifs
    · exact .ok hrest
    · exact .ok hrest
    · exact .ok hrest
    · exact .ok hrest
    · exact .ok hrest
    · exact .ok hrest
    · exact .of_suffix hrest (walks_readNumbered rest)
    · exact .flaw _ _

/-- Reading up to the closing quote walks. -/
theorem walks_readText (quote steps : ℕ) (cs : List Char) : Walks cs (readText quote steps cs) := by
  induction steps generalizing cs with
  | zero => exact .flaw _ _
  | succ steps ih =>
    cases cs with
    | nil => exact .flaw _ _
    | cons c rest =>
      have hrest : rest <:+ c :: rest := List.suffix_cons c rest
      rw [readText]
      split_ifs
      · exact .ok hrest
      · refine .of_suffix hrest ((walks_readEscape quote rest).bind fun d rest => ?_)
        exact (ih rest).bind fun more rest => .ok (List.suffix_refl rest)
      · exact .flaw _ _
      · exact .of_suffix hrest ((ih rest).bind fun more rest => .ok (List.suffix_refl rest))

theorem walks_readQuoted (cs : List Char) : Walks cs (readQuoted cs) :=
  walks_readText _ _ cs

/-! ## Numbers -/

/-- A run of digits at the front, and what follows it. -/
theorem digitRun_spec (cs : List Char) :
    (digitRun cs).1 ++ (digitRun cs).2 = cs ∧ ∀ c ∈ (digitRun cs).1, c.isDigit :=
  ⟨List.takeWhile_append_dropWhile, fun _ hc => List.mem_takeWhile_imp hc⟩

theorem suffix_digitRun (cs : List Char) : (digitRun cs).2 <:+ cs := ⟨_, (digitRun_spec cs).1⟩

/-- The digits of a whole number and what follows them make up the text. -/
theorem wholeRun_spec (cs : List Char) :
    (wholeRun cs).1 ++ (wholeRun cs).2 = cs ∧ ∀ c ∈ (wholeRun cs).1, c.isDigit := by
  rw [wholeRun.eq_def]
  split
  · exact ⟨rfl, by simp⟩
  · exact digitRun_spec _

/-- Behind a fraction, an end of the text is left. -/
theorem suffix_fractionRun (cs : List Char) : (fractionRun cs).2 <:+ cs := by
  rw [fractionRun.eq_def]
  split
  · next rest =>
    split
    · exact List.suffix_refl _
    · exact (suffix_digitRun rest).trans (List.suffix_cons '.' rest)
  · exact List.suffix_refl _

theorem suffix_exponentRun (cs : List Char) : (exponentRun cs).2 <:+ cs := by
  rw [exponentRun.eq_def]
  split
  · next c rest =>
    split
    · split
      next negative digits hsign =>
      -- behind the letter there is a minus sign, a plus sign or none
      have hdigits : digits <:+ rest := by
        split at hsign
        · cases hsign
          exact List.suffix_cons _ _
        · cases hsign
          exact List.suffix_cons _ _
        · cases hsign
          exact List.suffix_refl _
      dsimp only
      split
      · exact List.suffix_refl _
      · exact ((suffix_digitRun digits).trans hdigits).trans (List.suffix_cons c rest)
    · exact List.suffix_refl _
  · exact List.suffix_refl _

/-- Reading a number walks: it stops at nothing but digits that are there. -/
theorem walks_readNumber (cs : List Char) : Walks cs (readNumber cs) := by
  rw [readNumber.eq_def]
  split
  next negative body hsign =>
  have hbody : body <:+ cs := by
    split at hsign
    · cases hsign
      exact List.suffix_cons _ _
    · cases hsign
      exact List.suffix_refl _
  obtain ⟨hwhole, hdigits⟩ := wholeRun_spec body
  have hrest : (exponentRun (fractionRun (wholeRun body).2).2).2 <:+ cs :=
    ((suffix_exponentRun _).trans (suffix_fractionRun _)).trans
      (List.IsSuffix.trans ⟨_, hwhole⟩ hbody)
  dsimp only
  split
  · exact .flaw _ _
  split
  · split
    · next hlength =>
      refine .error fun n hn => ?_
      cases hn
      have hrun : (wholeRun body).1 <:+: body := List.IsPrefix.isInfix ⟨_, hwhole⟩
      exact ⟨hlength, _, hrun.trans hbody.isInfix, rfl, hdigits⟩
    · exact .ok hrest
  · exact .ok hrest

/-- Behind a word, an end of the text is left. -/
theorem suffix_readWord {found : Value × List Char} (h : readWord? cs = some found) :
    found.2 <:+ cs := by
  obtain ⟨⟨word, v⟩, -, hfound⟩ := List.exists_of_findSome?_eq_some h
  dsimp only at hfound
  split at hfound
  · cases hfound
    exact List.drop_suffix _ _
  · cases hfound

/-! ## Values -/

theorem suffix_skipBlanks (cs : List Char) : skipBlanks cs <:+ cs := List.dropWhile_suffix _

/-- Going on behind an item walks if reading the next one does. -/
theorem walks_afterItem (closing : Char) {item : α} {next : List Char → Step (Front (List α))}
    (hnext : ∀ cs, Walks cs (next cs)) (cs : List Char) :
    Walks cs (afterItem closing cs item next) := by
  have hblanks := suffix_skipBlanks cs
  rw [afterItem]
  split
  · exact .flaw _ _
  · next c rest hcs =>
    rw [hcs] at hblanks
    have hrest : rest <:+ cs := (List.suffix_cons c rest).trans hblanks
    split
    · exact .ok hrest
    split
    · refine .of_suffix ((suffix_skipBlanks rest).trans hrest) ?_
      exact (hnext _).bind fun more rest => .ok (List.suffix_refl rest)
    · exact .flaw _ _

theorem walks_readName (cs : List Char) : Walks cs (readName cs) := by
  rw [readName.eq_def]
  split
  · next rest =>
    refine .of_suffix (List.suffix_cons _ rest) ((walks_readQuoted rest).bind fun name rest => ?_)
    have hblanks := suffix_skipBlanks rest
    dsimp only
    split
    · next hcolon =>
      rw [hcolon] at hblanks
      exact .ok (((suffix_skipBlanks _).trans (List.suffix_cons _ _)).trans hblanks)
    · exact .flaw _ _
  · exact .flaw _ _

/-- Whatever the steps allowed, values, items and fields are read from the front. By induction on
the steps. -/
theorem walks_readValue (steps : ℕ) :
    (∀ cs, Walks cs (readValue steps cs)) ∧ (∀ cs, Walks cs (readItems steps cs)) ∧
      ∀ cs, Walks cs (readFields steps cs) := by
  induction steps with
  | zero =>
    refine ⟨fun cs => ?_, fun cs => ?_, fun cs => ?_⟩
    · rw [readValue]
      exact .flaw _ _
    · rw [readItems]
      exact .flaw _ _
    · rw [readFields]
      exact .flaw _ _
  | succ steps ih =>
    obtain ⟨hvalue, hitems, hfields⟩ := ih
    refine ⟨fun cs => ?_, fun cs => ?_, fun cs => ?_⟩
    · rw [readValue.eq_def]
      dsimp only
      -- the first character opens a text, a list or an object, or begins a word or a number
      split
      · next rest =>
        refine .of_suffix (List.suffix_cons _ rest) ?_
        exact (walks_readQuoted rest).bind fun s rest => .ok (List.suffix_refl rest)
      · next rest =>
        have hrest := (suffix_skipBlanks rest).trans (List.suffix_cons '[' rest)
        split
        · next hclosed =>
          rw [hclosed] at hrest
          exact .ok ((List.suffix_cons _ _).trans hrest)
        · exact .of_suffix hrest ((hitems _).bind fun items rest => .ok (List.suffix_refl rest))
      · next rest =>
        have hrest := (suffix_skipBlanks rest).trans (List.suffix_cons '\x7b' rest)
        split
        · next hclosed =>
          rw [hclosed] at hrest
          exact .ok ((List.suffix_cons _ _).trans hrest)
        · exact .of_suffix hrest ((hfields _).bind fun items rest => .ok (List.suffix_refl rest))
      · split
        · next hword => exact .ok (suffix_readWord hword)
        · exact walks_readNumber _
    · rw [readItems]
      exact (hvalue cs).bind fun item rest => walks_afterItem _ hitems rest
    · rw [readFields]
      refine (walks_readName cs).bind fun name rest => ?_
      exact (hvalue rest).bind fun v rest => walks_afterItem _ hfields rest

/-- A text is given up only for a run of its digits that is longer than the limit. -/
theorem hasRun_of_read {s : String} {n : ℕ} (h : read s = .error (.digitLimit n)) :
    HasRun n s.toList := by
  rw [read] at h
  cases hwhole : readWhole s.toList with
  | ok v =>
    rw [hwhole] at h
    cases h
  | error stop =>
    rw [hwhole] at h
    cases stop with
    | flaw f left => cases h
    | digitLimit digits =>
      cases h
      rw [readWhole.eq_def] at hwhole
      split at hwhole
      · cases hwhole
      · have hvalue := (walks_readValue (2 * s.toList.length + 2)).1 (skipBlanks s.toList)
        have hblanks := suffix_skipBlanks s.toList
        cases hread : readValue (2 * s.toList.length + 2) (skipBlanks s.toList) with
        | error stop =>
          rw [hread] at hwhole
          cases hwhole
          exact (hvalue.stop n hread).mono hblanks.isInfix
        | ok front =>
          rw [hread] at hwhole
          simp only [bind, Except.bind] at hwhole
          split at hwhole <;> cases hwhole

/-- A text that is one whole number with more digits than the limit is given up. -/
theorem read_tooLong (negative : Bool) {digits : List Char} (hdigits : IsWhole digits)
    (hlong : Decimal.digitLimit < digits.length) :
    read (String.ofList (signOf negative ++ digits)) = .error (.digitLimit digits.length) := by
  have hnumber : readNumber (signOf negative ++ digits) = .error (.digitLimit digits.length) := by
    have hend : EndsNumber [] := endsNumber_nil
    have hruns := readNumber_of_runs negative hdigits hend.isDigit_head hend.fractionRun
      hend.exponentRun
    rw [numberOf, if_pos (by simp), if_pos hlong, List.append_nil] at hruns
    exact hruns
  obtain ⟨d, ds, rfl⟩ := List.exists_cons_of_ne_nil hdigits.ne_nil
  have hd := hdigits.digits d List.mem_cons_self
  have hword := readWord?_number negative hd ds
  obtain ⟨c, cs, hcs, hfirst, hquote, hopen, hopen'⟩ := exists_number_eq_cons negative hd ds
  rw [hcs] at hnumber hword ⊢
  have hwhole : readWhole (c :: cs) = .error (.digitLimit (d :: ds).length) := by
    rw [readWhole.eq_def]
    split
    · next heq => exact absurd (List.cons.inj heq).1 hfirst.ne_mark
    · rw [skipBlanks_cons hfirst.isBlank, readValue_other _ hquote hopen hopen', hword]
      dsimp only
      rw [hnumber]
      rfl
  rw [read, String.toList_ofList, hwhole]

end ContentGateway.Json
