import Mathlib

/-!
# Steps that may fail

A program of steps gives a value exactly if every step does. Taking a list through one step item by
item keeps the places of the items, so a part of the list gives the same part of the outcome. Two
programs fail alike if they do at each step, whatever they give, and what they give is related if it
is at each step.
-/

namespace ContentGateway

section Bind

variable {ε α β : Type} {first : Except ε α} {next : α → Except ε β}

/-- A program of two steps gives a value exactly if both do. -/
theorem bind_eq_ok {b : β} : first >>= next = .ok b ↔ ∃ a, first = .ok a ∧ next a = .ok b := by
  cases first with
  | error e => exact ⟨(nomatch ·), fun ⟨_, h, _⟩ => nomatch h⟩
  | ok a => exact ⟨fun h => ⟨a, rfl, h⟩, fun ⟨_, h, hb⟩ => Except.ok.inj h ▸ hb⟩

/-- A program of two steps fails if one of them does. -/
theorem bind_eq_error {e : ε} :
    first >>= next = .error e ↔ first = .error e ∨ ∃ a, first = .ok a ∧ next a = .error e := by
  cases first with
  | error e' =>
    refine ⟨fun h => .inl (congrArg Except.error (Except.error.inj h)), ?_⟩
    rintro (h | ⟨a, h, -⟩)
    · exact congrArg Except.error (Except.error.inj h)
    · cases h
  | ok a =>
    refine ⟨fun h => .inr ⟨a, rfl, h⟩, ?_⟩
    rintro (h | ⟨b, h, hb⟩)
    · cases h
    · exact Except.ok.inj h ▸ hb

/-- Two steps give something if the first does and the second does behind whatever comes. -/
theorem exists_bind_ok (hfirst : ∃ a, first = .ok a) (hnext : ∀ a, ∃ b, next a = .ok b) :
    ∃ b, first >>= next = .ok b := by
  obtain ⟨a, rfl⟩ := hfirst
  exact hnext a

/-- Whether whatever a step gives has a property. -/
def Gives {ε α : Type} (P : α → Prop) (step : Except ε α) : Prop := ∀ a, step = .ok a → P a

variable {P : α → Prop} {Q : β → Prop}

theorem gives_ok {a : α} (h : P a) : Gives P (.ok a : Except ε α) := by
  intro b hb
  cases hb
  exact h

theorem gives_error (e : ε) : Gives P (.error e : Except ε α) := by
  intro a ha
  cases ha

theorem gives_any (step : Except ε α) : Gives (fun _ => True) step := fun _ _ => trivial

/-- What a step gives behind another may use what is known of the first. -/
theorem Gives.bind (hfirst : Gives P first) (hnext : ∀ a, P a → Gives Q (next a)) :
    Gives Q (first >>= next) := by
  intro b hb
  obtain ⟨a, ha, hb⟩ := bind_eq_ok.mp hb
  exact hnext a (hfirst a ha) b hb

end Bind

section FailAlike

variable {ε α β γ δ : Type}

/-- Whether two steps fail in the same cases with the same. -/
def FailAlike (first : Except ε α) (second : Except ε β) : Prop :=
  ∀ e, first = .error e ↔ second = .error e

theorem failAlike_rfl (step : Except ε α) : FailAlike step step := fun _ => Iff.rfl

theorem failAlike_ok (a : α) (b : β) :
    FailAlike (.ok a : Except ε α) (.ok b : Except ε β) := fun _ => ⟨nofun, nofun⟩

/-- Of two steps that fail alike, both give something or both fail with the same. -/
theorem FailAlike.cases {first : Except ε α} {second : Except ε β} (h : FailAlike first second) :
    (∃ a b, first = .ok a ∧ second = .ok b) ∨ ∃ e, first = .error e ∧ second = .error e := by
  cases first with
  | error e => exact .inr ⟨e, rfl, (h e).mp rfl⟩
  | ok a =>
    cases second with
    | error e => exact absurd ((h e).mpr rfl) nofun
    | ok b => exact .inl ⟨a, b, rfl, rfl⟩

/-- Nothing follows a step that fails. -/
theorem error_bind_eq (e : ε) (next : α → Except ε β) :
    (Except.error e : Except ε α) >>= next = .error e := rfl

/-- Steps that fail alike still do behind others that do. -/
theorem FailAlike.bind {first : Except ε α} {second : Except ε β} {next : α → Except ε γ}
    {next' : β → Except ε δ} (h : FailAlike first second)
    (hnext : ∀ a b, FailAlike (next a) (next' b)) :
    FailAlike (first >>= next) (second >>= next') := by
  rcases h.cases with ⟨a, b, rfl, rfl⟩ | ⟨e, rfl, rfl⟩
  · exact hnext a b
  · intro e'
    rw [error_bind_eq, error_bind_eq, Except.error.injEq, Except.error.injEq]

end FailAlike

section Alike

variable {ε α β γ δ : Type} {R : α → β → Prop} {S : γ → δ → Prop}

/-- Whether two steps both give something, related by `R`, or both fail with the same. -/
inductive Alike (R : α → β → Prop) : Except ε α → Except ε β → Prop
  | ok {a : α} {b : β} (h : R a b) : Alike R (.ok a) (.ok b)
  | error (e : ε) : Alike R (.error e) (.error e)

/-- Alike steps go on alike where what they give is related. -/
theorem Alike.bind {first : Except ε α} {second : Except ε β} {next : α → Except ε γ}
    {next' : β → Except ε δ} (h : Alike R first second)
    (hnext : ∀ a b, R a b → Alike S (next a) (next' b)) :
    Alike S (first >>= next) (second >>= next') := by
  cases h with
  | ok h => exact hnext _ _ h
  | error e => exact .error e

/-- Lists that are taken through related steps give lists that are related item by item. -/
theorem Alike.mapM {step : γ → Except ε α} {step' : γ → Except ε β} {cs : List γ}
    (h : ∀ c ∈ cs, Alike R (step c) (step' c)) :
    Alike (List.Forall₂ R) (cs.mapM step) (cs.mapM step') := by
  induction cs with
  | nil => exact .ok .nil
  | cons c cs ih =>
    obtain ⟨hc, hcs⟩ := List.forall_mem_cons.mp h
    rw [List.mapM_cons, List.mapM_cons]
    exact hc.bind fun a b hab => (ih hcs).bind fun as bs habs => .ok (.cons hab habs)

/-- Alike steps fail alike. -/
theorem Alike.failAlike {first : Except ε α} {second : Except ε β} (h : Alike R first second) :
    FailAlike first second := by
  cases h with
  | ok _ => exact failAlike_ok _ _
  | error e =>
    intro e'
    rw [Except.error.injEq, Except.error.injEq]

/-- Where the first of two such steps gives something, the second gives something related. -/
theorem Alike.ok_left {second : Except ε β} {a : α} (h : Alike R (.ok a) second) :
    ∃ b, second = .ok b ∧ R a b := by
  cases h with
  | ok h => exact ⟨_, rfl, h⟩

/-- Where the second of two such steps gives something, the first gives something related. -/
theorem Alike.ok_right {first : Except ε α} {b : β} (h : Alike R first (.ok b)) :
    ∃ a, first = .ok a ∧ R a b := by
  cases h with
  | ok h => exact ⟨_, rfl, h⟩

end Alike

/-- Of two lists that are related item by item, each item of the first has one of the second. -/
theorem exists_of_forall₂ {α β : Type} {R : α → β → Prop} {as : List α} {bs : List β}
    (h : List.Forall₂ R as bs) {a : α} (ha : a ∈ as) : ∃ b ∈ bs, R a b := by
  induction h with
  | nil => exact absurd ha List.not_mem_nil
  | cons hfirst _ ih =>
    rcases List.mem_cons.mp ha with rfl | ha
    · exact ⟨_, List.mem_cons_self, hfirst⟩
    · obtain ⟨b, hb, hab⟩ := ih ha
      exact ⟨b, List.mem_cons_of_mem _ hb, hab⟩

section MapM

variable {ε α β : Type} {step : α → Except ε β}

/-- A list gives a list if each of its items gives something. -/
theorem mapM_ok {as : List α} (h : ∀ a ∈ as, ∃ b, step a = .ok b) :
    ∃ bs, as.mapM step = .ok bs := by
  induction as with
  | nil => exact ⟨[], rfl⟩
  | cons a as ih =>
    obtain ⟨b, hb⟩ := h a List.mem_cons_self
    obtain ⟨bs, hbs⟩ := ih fun c hc => h c (List.mem_cons_of_mem a hc)
    exact ⟨b :: bs, by rw [List.mapM_cons, hb, hbs]; rfl⟩

/-- Nothing gives nothing. -/
theorem mapM_nil_eq_ok {bs : List β} : ([] : List α).mapM step = .ok bs ↔ bs = [] := by
  rw [List.mapM_nil]
  exact ⟨fun h => (Except.ok.inj h).symm, fun h => congrArg Except.ok h.symm⟩

/-- A list gives its items' outcomes, the first of them first. -/
theorem mapM_cons_eq_ok {a : α} {as : List α} {bs : List β} :
    (a :: as).mapM step = .ok bs ↔
      ∃ b cs, step a = .ok b ∧ as.mapM step = .ok cs ∧ bs = b :: cs := by
  rw [List.mapM_cons]
  constructor
  · intro h
    obtain ⟨b, hb, h⟩ := bind_eq_ok.mp h
    obtain ⟨cs, hcs, h⟩ := bind_eq_ok.mp h
    exact ⟨b, cs, hb, hcs, (Except.ok.inj h).symm⟩
  · rintro ⟨b, cs, hb, hcs, rfl⟩
    rw [hb, hcs]
    rfl

/-- A list gives the outcomes of its items, each in its place. -/
theorem mapM_eq_ok {as : List α} {bs : List β} :
    as.mapM step = .ok bs ↔ List.Forall₂ (fun a b => step a = .ok b) as bs := by
  induction as generalizing bs with
  | nil => rw [mapM_nil_eq_ok, List.forall₂_nil_left_iff]
  | cons a as ih =>
    rw [mapM_cons_eq_ok, List.forall₂_cons_left_iff]
    simp only [ih]

/-- Where a list gives something, so does each of its items. -/
theorem mapM_mem {as : List α} {bs : List β} (h : as.mapM step = .ok bs) {a : α} (ha : a ∈ as) :
    ∃ b ∈ bs, step a = .ok b := exists_of_forall₂ (mapM_eq_ok.mp h) ha

/-- What a list gives comes from its items. -/
theorem mapM_of_mem {as : List α} {bs : List β} (h : as.mapM step = .ok bs) {b : β} (hb : b ∈ bs) :
    ∃ a ∈ as, step a = .ok b := by
  induction as generalizing bs with
  | nil =>
    cases h
    exact absurd hb List.not_mem_nil
  | cons a as ih =>
    obtain ⟨b', cs, hb', hcs, rfl⟩ := mapM_cons_eq_ok.mp h
    rcases List.mem_cons.mp hb with rfl | hb
    · exact ⟨a, List.mem_cons_self, hb'⟩
    · obtain ⟨a', ha', hstep⟩ := ih hcs hb
      exact ⟨a', List.mem_cons_of_mem a ha', hstep⟩

/-- A list fails with the first of its items that does. -/
theorem mapM_eq_error {as : List α} {e : ε} :
    as.mapM step = .error e ↔ ∃ front a back, as = front ++ a :: back ∧
      (∀ b ∈ front, ∃ c, step b = .ok c) ∧ step a = .error e := by
  induction as with
  | nil =>
    refine iff_of_false (fun h => nomatch h) ?_
    rintro ⟨front, a, back, h, -⟩
    exact List.append_ne_nil_of_right_ne_nil front (List.cons_ne_nil a back) h.symm
  | cons a as ih =>
    rw [List.mapM_cons, bind_eq_error]
    constructor
    · rintro (ha | ⟨b, ha, h⟩)
      · exact ⟨[], a, as, rfl, List.forall_mem_nil _, ha⟩
      rcases bind_eq_error.mp h with has | ⟨bs, -, h⟩
      · obtain ⟨front, a', back, rfl, hfront, ha'⟩ := ih.mp has
        exact ⟨a :: front, a', back, rfl, List.forall_mem_cons.mpr ⟨⟨b, ha⟩, hfront⟩, ha'⟩
      · cases h
    · rintro ⟨front, a', back, h, hfront, ha'⟩
      cases front with
      | nil =>
        cases h
        exact .inl ha'
      | cons b front =>
        cases h
        obtain ⟨⟨c, hc⟩, hfront⟩ := List.forall_mem_cons.mp hfront
        refine .inr ⟨c, hc, bind_eq_error.mpr (.inl ?_)⟩
        exact ih.mpr ⟨front, a', back, rfl, hfront, ha'⟩

/-- A single item fails as it does alone. -/
theorem mapM_singleton_eq_error {a : α} {e : ε} :
    [a].mapM step = .error e ↔ step a = .error e := by
  rw [List.mapM_cons, bind_eq_error, or_iff_left]
  rintro ⟨b, -, h⟩
  cases h

/-- Where a list fails, one of its items does. -/
theorem mapM_error {as : List α} {e : ε} (h : as.mapM step = .error e) :
    ∃ a ∈ as, step a = .error e := by
  obtain ⟨front, a, back, rfl, -, ha⟩ := mapM_eq_error.mp h
  exact ⟨a, List.mem_append_right _ List.mem_cons_self, ha⟩

/-- A list with an item that fails does too, and if its items fail in only one way, then in that. -/
theorem mapM_error_of_mem {as : List α} {e : ε}
    (hitems : ∀ a ∈ as, (∃ b, step a = .ok b) ∨ step a = .error e)
    (hfails : ∃ a ∈ as, step a = .error e) : as.mapM step = .error e := by
  cases hstep : as.mapM step with
  | ok bs =>
    obtain ⟨a, ha, hfails⟩ := hfails
    obtain ⟨b, -, hb⟩ := mapM_mem hstep ha
    rw [hfails] at hb
    cases hb
  | error e' =>
    obtain ⟨a, ha, hfails'⟩ := mapM_error hstep
    rcases hitems a ha with ⟨b, hb⟩ | he
    · rw [hfails'] at hb
      cases hb
    · rw [Except.error.inj (hfails'.symm.trans he)]

/-- A list gives as many values as it has items. -/
theorem mapM_length {as : List α} {bs : List β} (h : as.mapM step = .ok bs) :
    bs.length = as.length := (mapM_eq_ok.mp h).length_eq.symm

/-- What is behind the first items gives what is behind their values. -/
theorem mapM_drop {as : List α} {bs : List β} (h : as.mapM step = .ok bs) (n : ℕ) :
    (as.drop n).mapM step = .ok (bs.drop n) :=
  mapM_eq_ok.mpr (List.forall₂_drop n (mapM_eq_ok.mp h))

theorem mapM_take {as : List α} {bs : List β} (h : as.mapM step = .ok bs) (n : ℕ) :
    (as.take n).mapM step = .ok (bs.take n) :=
  mapM_eq_ok.mpr (List.forall₂_take n (mapM_eq_ok.mp h))

end MapM

end ContentGateway
