import Mathlib
import ContentGateway.Proofs.Decimal.Notation
import ContentGateway.Proofs.Steps
import ContentGateway.Value.Render

/-!
# What can go wrong in showing a value

Showing a value, and the arithmetic on numbers beneath it, fails only because some value does not
fit: it is of the wrong sort, too large, or too long for text. Such a *misfit* is never an attempt
that failed nor a classified failure, so the transport neither repeats it nor reports it.

A value made of the kinds of JSON, with whole numbers short enough for text, can always be shown; so
can one that carries bytes, or faults with a message, along. A condition whose arguments can be
shown has a message. A broken text can be shown, but what is shown of it is not all of it; the
values whose text can stand for them hold none.
-/

namespace ContentGateway

/-! ## Steps that fail with misfits only -/

/-- Whether a fault says that a value does not fit what it is put to. -/
def Fault.IsMisfit : Fault → Prop
  | .misuse _ => True
  | .digitLimit _ => True
  | .unencodable _ => True
  | .condition .badValue _ => True
  | _ => False

/-- Whether a step fails with misfits only. -/
def OnlyMisfits {α : Type} (step : Except Fault α) : Prop := ∀ f, step = .error f → f.IsMisfit

theorem onlyMisfits_ok {α : Type} (a : α) : OnlyMisfits (.ok a : Except Fault α) := by
  intro f h
  cases h

theorem onlyMisfits_error {α : Type} {f : Fault} (h : f.IsMisfit) :
    OnlyMisfits (.error f : Except Fault α) := by
  intro g hg
  cases hg
  exact h

/-- A step behind another fails with misfits only if both do. -/
theorem OnlyMisfits.bind {α β : Type} {first : Except Fault α} {next : α → Except Fault β}
    (hfirst : OnlyMisfits first) (hnext : ∀ a, OnlyMisfits (next a)) :
    OnlyMisfits (first >>= next) := by
  intro f hf
  cases first with
  | error g => exact hfirst f (congrArg Except.error (Except.error.inj hf))
  | ok a => exact hnext a f hf

theorem onlyMisfits_pure {α : Type} (a : α) : OnlyMisfits (pure a : Except Fault α) :=
  onlyMisfits_ok a

/-- The text of a whole number fails with misfits only. -/
theorem onlyMisfits_wholeText (i : ℤ) : OnlyMisfits (Value.wholeText i) := by
  rw [Value.wholeText]
  cases Decimal.intText? i with
  | some s => exact onlyMisfits_ok s
  | none => exact onlyMisfits_error trivial

theorem onlyMisfits_number (v : Value) : OnlyMisfits v.number := by
  rw [Value.number]
  cases v.number? with
  | some n => exact onlyMisfits_ok n
  | none => exact onlyMisfits_error trivial

theorem onlyMisfits_wholePart (v : Value) : OnlyMisfits v.wholePart := by
  refine .bind (onlyMisfits_number v) fun n => ?_
  cases n with
  | int i => exact onlyMisfits_wholeText i
  | float x =>
    dsimp only
    split
    · exact onlyMisfits_wholeText _
    · exact onlyMisfits_error trivial
    · exact onlyMisfits_error trivial

theorem onlyMisfits_length (v : Value) : OnlyMisfits v.length := by
  cases v <;> first | exact onlyMisfits_ok _ | exact onlyMisfits_error trivial

theorem onlyMisfits_shortReadMessage (args : List Value) : OnlyMisfits (shortReadMessage args) := by
  refine .bind ?_ fun more => .bind (onlyMisfits_length _) fun read => onlyMisfits_pure _
  rw [expectedMore.eq_def]
  split
  · exact onlyMisfits_ok _
  · exact .bind (onlyMisfits_wholePart _) fun _ => onlyMisfits_pure _

/-! ## Showing

One case per kind of value and per form of a fault, following the recursion of `render`.
-/

mutual

/-- Showing a value fails with misfits only. -/
theorem Value.render_misfit (style : Style) : (v : Value) → OnlyMisfits (v.render style)
  | .null | .bool _ | .float _ | .text _ | .unpaired _ | .bytes _ => by
    rw [Value.render.eq_def]
    exact onlyMisfits_ok _
  | .int i => by
    rw [Value.render]
    exact onlyMisfits_wholeText i
  | .list items => by
    rw [Value.render]
    exact .bind (Value.renderItems_misfit items) fun _ => onlyMisfits_pure _
  | .dict fields => by
    rw [Value.render]
    exact .bind (Value.renderFields_misfit fields) fun _ => onlyMisfits_pure _
  | .fault f => by
    rw [Value.render]
    exact Fault.render_misfit style f

theorem Value.renderItems_misfit : (vs : List Value) → OnlyMisfits (Value.renderItems vs)
  | [] => by
    rw [Value.renderItems]
    exact onlyMisfits_ok _
  | v :: rest => by
    rw [Value.renderItems]
    exact .bind (Value.render_misfit .quoted v) fun _ =>
      .bind (Value.renderItems_misfit rest) fun _ => onlyMisfits_pure _

theorem Value.renderFields_misfit : (fields : List (String × Value)) →
    OnlyMisfits (Value.renderFields fields)
  | [] => by
    rw [Value.renderFields]
    exact onlyMisfits_ok _
  | (_, v) :: rest => by
    rw [Value.renderFields]
    exact .bind (Value.render_misfit .quoted v) fun _ =>
      .bind (Value.renderFields_misfit rest) fun _ => onlyMisfits_pure _

theorem Value.renderSubjects_misfit (c : Condition) : (vs : List Value) →
    OnlyMisfits (Value.renderSubjects c vs)
  | [] => by
    rw [Value.renderSubjects]
    exact onlyMisfits_ok _
  | [first] => by
    rw [Value.renderSubjects]
    split
    · exact .bind (Value.render_misfit .quoted first) fun _ => onlyMisfits_pure _
    · exact onlyMisfits_pure _
  | [first, _, second] => by
    rw [Value.renderSubjects]
    split
    · refine .bind (Value.render_misfit .quoted first) fun _ => ?_
      dsimp only
      split
      · exact onlyMisfits_pure _
      · exact .bind (Value.render_misfit .quoted second) fun _ => onlyMisfits_pure _
    · exact onlyMisfits_pure _
  | [first, _] => by
    rw [Value.renderSubjects]
    split
    · exact .bind (Value.render_misfit .quoted first) fun _ => onlyMisfits_pure _
    · exact onlyMisfits_pure _
  | first :: _ :: _ :: _ :: _ => by
    rw [Value.renderSubjects]
    split
    · exact .bind (Value.render_misfit .quoted first) fun _ => onlyMisfits_pure _
    · exact onlyMisfits_pure _

theorem Fault.render_misfit (style : Style) : (f : Fault) → OnlyMisfits (f.render style)
  | .attempt .. | .problem .. | .misuse _ | .digitLimit _ | .unencodable _ | .unknownAction _
  | .unknownScheme _ | .tapeExhausted => by
    rw [Fault.render.eq_def]
    exact onlyMisfits_ok _
  | .classified _ _ status _ _ => by
    rw [Fault.render.eq_def]
    cases style with
    | bare => exact onlyMisfits_ok _
    | quoted => exact .bind (Value.render_misfit .quoted status) fun _ => onlyMisfits_pure _
  | .refusal status _ => by
    rw [Fault.render.eq_def]
    exact .bind (Value.render_misfit .bare status) fun _ => onlyMisfits_pure _
  | .condition c [] => by
    rw [Fault.render.eq_def]
    dsimp only
    split
    · exact onlyMisfits_shortReadMessage []
    all_goals exact onlyMisfits_ok _
  | .condition c [v] => by
    have hv := fun style => Value.render_misfit style v
    rw [Fault.render.eq_def]
    dsimp only
    split
    · exact onlyMisfits_shortReadMessage [v]
    · exact .bind (hv .quoted) fun _ => onlyMisfits_pure _
    · exact hv .quoted
    · exact .bind (hv .bare) fun _ => onlyMisfits_pure _
    · exact hv .bare
  | .condition c (number :: text :: more) => by
    have hnumber := fun style => Value.render_misfit style number
    have htext := fun style => Value.render_misfit style text
    have hmore := Value.renderItems_misfit more
    rw [Fault.render.eq_def]
    dsimp only
    split
    · exact onlyMisfits_shortReadMessage (number :: text :: more)
    · refine .bind (hnumber .quoted) fun _ => .bind (htext .quoted) fun _ => ?_
      split
      · exact onlyMisfits_pure _
      · exact .bind hmore fun _ => onlyMisfits_pure _
    · refine .bind ?_ fun _ => onlyMisfits_pure _
      rw [Value.renderItems, Value.renderItems]
      exact .bind (hnumber .quoted) fun _ =>
        .bind (.bind (htext .quoted) fun _ => .bind hmore fun _ => onlyMisfits_pure _)
          fun _ => onlyMisfits_pure _
    · exact .bind (hnumber .bare) fun _ => onlyMisfits_pure _
    · split
      · exact .bind (hnumber .bare) fun _ => .bind (htext .bare) fun _ =>
          .bind (Value.renderSubjects_misfit c more) fun _ => onlyMisfits_pure _
      · exact .bind (hnumber .quoted) fun _ => .bind (htext .quoted) fun _ =>
          .bind hmore fun _ => onlyMisfits_pure _

end

theorem Value.display_misfit (v : Value) : OnlyMisfits v.display := v.render_misfit .bare

theorem Fault.message_misfit (f : Fault) : OnlyMisfits f.message := f.render_misfit .bare

/-! ## Values that can be shown -/

/-- A value made of the kinds of JSON, whose whole numbers are short enough for text. -/
inductive Value.IsJson : Value → Prop
  | null : IsJson .null
  | bool (b : Bool) : IsJson (.bool b)
  | int {i : ℤ} (h : i.natAbs < 10 ^ Decimal.digitLimit) : IsJson (.int i)
  | float (x : Binary64) : IsJson (.float x)
  | text (s : String) : IsJson (.text s)
  | unpaired (t : Text.Broken) : IsJson (.unpaired t)
  | list {items : List Value} (h : ∀ v ∈ items, IsJson v) : IsJson (.list items)
  | dict {fields : Fields} (h : ∀ field ∈ fields, IsJson field.2) : IsJson (.dict fields)

/-- A whole number has a text exactly if it is below the power of ten of the limit. -/
theorem intText?_isSome_iff (i : ℤ) :
    (Decimal.intText? i).isSome ↔ i.natAbs < 10 ^ Decimal.digitLimit := by
  have hlength : (Decimal.natDigits i.natAbs).length ≤ Decimal.digitLimit ↔
      i.natAbs < 10 ^ Decimal.digitLimit :=
    Decimal.length_natDigits_le_iff (by decide)
  rw [Decimal.intText?, ← hlength]
  split <;> simp_all

/-- A whole number that is short enough has a text. -/
theorem Value.wholeText_ok {i : ℤ} (h : i.natAbs < 10 ^ Decimal.digitLimit) :
    Value.wholeText i = .ok (Decimal.intText i) := by
  have hsome := (intText?_isSome_iff i).mpr h
  rw [Value.wholeText, Decimal.intText?] at *
  split <;> simp_all

/-- A whole number that can be shown is shown by its decimal text. -/
theorem Value.eq_of_wholeText {i : ℤ} {s : String} (h : Value.wholeText i = .ok s) :
    s = Decimal.intText i := by
  rw [Value.wholeText, Decimal.intText?] at h
  split_ifs at h
  exact (Except.ok.inj h).symm

/-- A whole number that can be shown is short enough. -/
theorem Value.lt_of_wholeText {i : ℤ} {s : String} (h : Value.wholeText i = .ok s) :
    i.natAbs < 10 ^ Decimal.digitLimit := by
  rw [← intText?_isSome_iff]
  rw [Value.wholeText] at h
  split at h
  · next hsome => rw [hsome]; rfl
  · cases h

/-- Items that can be shown are shown in a list. -/
theorem Value.renderItems_ok {items : List Value}
    (h : ∀ v ∈ items, ∃ s, v.render .quoted = .ok s) : ∃ ss, Value.renderItems items = .ok ss := by
  induction items with
  | nil => exact ⟨[], by rw [Value.renderItems]⟩
  | cons v rest ih =>
    obtain ⟨s, hs⟩ := h v List.mem_cons_self
    obtain ⟨ss, hss⟩ := ih fun w hw => h w (List.mem_cons_of_mem v hw)
    exact ⟨s :: ss, by rw [Value.renderItems, hs, hss]; rfl⟩

/-- Values that can be shown are shown as fields. -/
theorem Value.renderFields_ok {fields : Fields}
    (h : ∀ field ∈ fields, ∃ s, field.2.render .quoted = .ok s) :
    ∃ ss, Value.renderFields fields = .ok ss := by
  induction fields with
  | nil => exact ⟨[], by rw [Value.renderFields]⟩
  | cons field rest ih =>
    obtain ⟨s, hs⟩ := h field List.mem_cons_self
    obtain ⟨ss, hss⟩ := ih fun other hother => h other (List.mem_cons_of_mem field hother)
    exact ⟨(Text.quoted field.1 ++ ": " ++ s) :: ss, by rw [Value.renderFields, hs, hss]; rfl⟩

/-- Arguments that can be shown are shown as what a condition is about. -/
theorem Value.renderSubjects_ok (c : Condition) {args : List Value}
    (h : ∀ v ∈ args, ∃ s, v.render .quoted = .ok s) :
    ∃ ss, Value.renderSubjects c args = .ok ss := by
  rcases args with _ | ⟨first, more⟩
  · exact ⟨[], by rw [Value.renderSubjects]⟩
  rw [Value.renderSubjects.eq_def]
  dsimp only
  split
  · refine exists_bind_ok (h first List.mem_cons_self) fun shown => ?_
    -- only the last of three may be shown as well
    split
    · next skipped second =>
      split
      · exact ⟨_, rfl⟩
      · exact exists_bind_ok (h second (by simp)) fun _ => ⟨_, rfl⟩
    · exact ⟨_, rfl⟩
  · exact ⟨_, rfl⟩

/-- A value that its text can stand for: its whole numbers are short enough, no text in it is
broken, and each fault in it has a message in either style. -/
inductive Value.IsShowable : Value → Prop
  | null : IsShowable .null
  | bool (b : Bool) : IsShowable (.bool b)
  | int {i : ℤ} (h : i.natAbs < 10 ^ Decimal.digitLimit) : IsShowable (.int i)
  | float (x : Binary64) : IsShowable (.float x)
  | text (s : String) : IsShowable (.text s)
  | list {items : List Value} (h : ∀ v ∈ items, IsShowable v) : IsShowable (.list items)
  | dict {fields : Fields} (h : ∀ field ∈ fields, IsShowable field.2) : IsShowable (.dict fields)
  | bytes (data : List UInt8) : IsShowable (.bytes data)
  | fault {f : Fault} (h : ∀ style, ∃ s, f.render style = .ok s) : IsShowable (.fault f)

/-- A value that its text can stand for is no broken text. -/
theorem Value.IsShowable.ne_unpaired {v : Value} (h : v.IsShowable) (t : Text.Broken) :
    v ≠ .unpaired t := by
  rintro rfl
  cases h

/-- There is no broken text in its place. -/
theorem Value.IsShowable.unpaired?_eq_none {v : Value} (h : v.IsShowable) :
    v.unpaired? = none := by
  cases h <;> rfl

/-- A list can be shown if its items can. -/
theorem Value.render_list_ok {items : List Value} (h : ∀ v ∈ items, ∃ s, v.render .quoted = .ok s)
    (style : Style) : ∃ s, (Value.list items).render style = .ok s := by
  obtain ⟨ss, hss⟩ := Value.renderItems_ok h
  exact ⟨_, by rw [Value.render, hss]; rfl⟩

/-- An object can be shown if its values can. -/
theorem Value.render_dict_ok {fields : Fields}
    (h : ∀ field ∈ fields, ∃ s, field.2.render .quoted = .ok s) (style : Style) :
    ∃ s, (Value.dict fields).render style = .ok s := by
  obtain ⟨ss, hss⟩ := Value.renderFields_ok h
  exact ⟨_, by rw [Value.render, hss]; rfl⟩

/-- Whether a value can be shown in either style. -/
def Value.HasText (v : Value) : Prop := ∀ style, ∃ s, v.render style = .ok s

/-- A value that its text can stand for has a text. -/
theorem Value.IsShowable.render_ok {v : Value} (h : v.IsShowable) : v.HasText := by
  induction h with
  | null | bool | float | text | bytes => exact fun style => ⟨_, by rw [Value.render.eq_def]⟩
  | int h => exact fun style => ⟨_, by rw [Value.render, Value.wholeText_ok h]⟩
  | list h ih => exact Value.render_list_ok fun v hv => ih v hv .quoted
  | dict h ih => exact Value.render_dict_ok fun field hfield => ih field hfield .quoted
  | fault h =>
    intro style
    rw [Value.render]
    exact h style

/-- A JSON value can be shown in either style. -/
theorem Value.IsJson.render_ok {v : Value} (h : v.IsJson) : v.HasText := by
  induction h with
  | null | bool | float | text | unpaired => exact fun style => ⟨_, by rw [Value.render.eq_def]⟩
  | int h => exact fun style => ⟨_, by rw [Value.render, Value.wholeText_ok h]⟩
  | list h ih => exact Value.render_list_ok fun v hv => ih v hv .quoted
  | dict h ih => exact Value.render_dict_ok fun field hfield => ih field hfield .quoted

/-! ## Conditions that can be shown -/

/-- A condition whose arguments can be shown has a message, unless it is about how much was read. -/
theorem Fault.message_condition_ok {c : Condition} {args : List Value} (hc : c ≠ .shortRead)
    (hshown : ∀ v ∈ args, v.HasText) :
    ∃ s, (Fault.condition c args).message = .ok s := by
  have hitems := Value.renderItems_ok fun v hv => hshown v hv .quoted
  rw [Fault.message, Fault.render.eq_def]
  dsimp only
  rcases args with _ | ⟨v, _ | ⟨text, more⟩⟩
  · split
    · exact absurd rfl hc
    all_goals exact ⟨_, rfl⟩
  · have hv := hshown v List.mem_cons_self
    split
    · exact absurd rfl hc
    · contradiction
    · exact hv .quoted
    · exact exists_bind_ok (hv .bare) fun _ => ⟨_, rfl⟩
    · exact hv .bare
  · have hv := hshown v List.mem_cons_self
    have htext := hshown text (List.mem_cons_of_mem v List.mem_cons_self)
    have hmore : ∀ w ∈ more, ∃ s, w.render .quoted = .ok s := fun w hw =>
      hshown w (List.mem_cons_of_mem v (List.mem_cons_of_mem text hw)) .quoted
    split
    · exact absurd rfl hc
    · contradiction
    · exact exists_bind_ok hitems fun _ => ⟨_, rfl⟩
    · exact exists_bind_ok (hv .bare) fun _ => ⟨_, rfl⟩
    · dsimp only
      split
      · exact exists_bind_ok (hv .bare) fun _ => exists_bind_ok (htext .bare) fun _ =>
          exists_bind_ok (Value.renderSubjects_ok _ hmore) fun _ => ⟨_, rfl⟩
      · exact exists_bind_ok (hv .quoted) fun _ => exists_bind_ok (htext .quoted) fun _ =>
          exists_bind_ok (Value.renderItems_ok hmore) fun _ => ⟨_, rfl⟩

end ContentGateway
