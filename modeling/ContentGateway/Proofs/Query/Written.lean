import Mathlib
import ContentGateway.Proofs.Decimal.Doubling
import ContentGateway.Proofs.Decimal.ReadBack
import ContentGateway.Proofs.Query.Boundary
import ContentGateway.Proofs.Query.Compiled
import ContentGateway.Proofs.Value.Display
import ContentGateway.Text.Basic

/-!
# Queries that can be written

A setting is plain if it holds nothing but texts, truth values and numbers short enough for text,
each where it is documented to stand. A query made of plain settings compiles: the only thing that
could fail is the text of a whole number, and the whole part of a binary64 number is never too long.
-/

namespace ContentGateway

/-- The whole part of a binary64 number is short enough for text. -/
theorem Binary64.truncate?_lt {x : Binary64} {i : ℤ} (h : x.truncate? = some i) :
    i.natAbs < 10 ^ Decimal.digitLimit := by
  cases x with
  | nan => cases h
  | infinite negative => cases h
  | finite negative rank =>
    -- every finite number is below 2 ^ 1024, which is far shorter than the limit
    have hunits := numerator_mul_unitsOfOne rank
    have hlt := units_lt rank.isLt
    have hbound : 2 ^ 1024 ≤ 10 ^ Decimal.digitLimit :=
      two_pow_le_ten_pow (a := 205) (b := 62) (by norm_num) 5 (by norm_num) (by decide)
    generalize (2 : ℕ) ^ 1024 = bound at hlt hbound
    have hdenominator : 0 < denominator rank := by
      rw [denominator, Nat.pow_eq]
      positivity
    have hquotient : numerator rank < denominator rank * bound := by
      refine Nat.lt_of_mul_lt_mul_right (a := unitsOfOne) ?_
      calc numerator rank * unitsOfOne = units rank * denominator rank := hunits
        _ < bound * unitsOfOne * denominator rank := Nat.mul_lt_mul_of_pos_right hlt hdenominator
        _ = denominator rank * bound * unitsOfOne := by ring
    have hwhole : numerator rank / denominator rank < 10 ^ Decimal.digitLimit :=
      (Nat.div_lt_of_lt_mul hquotient).trans_le hbound
    rw [truncate?] at h
    obtain rfl := Option.some.inj h
    split
    · rwa [Int.natAbs_neg, Int.natAbs_natCast]
    · rwa [Int.natAbs_natCast]

/-! ## Operands -/

/-- A value that has a text is written without quotes. -/
theorem Value.HasText.plain_ok {v : Value} (h : v.HasText) : ∃ s, v.plain = .ok s := by
  rw [plain.eq_def]
  split
  · exact ⟨_, rfl⟩
  · split
    · next hwhole => exact ⟨_, wholeText_ok (Binary64.truncate?_lt hwhole)⟩
    · exact ⟨_, rfl⟩
  · exact h .bare

/-- It is written with quotes. -/
theorem Value.HasText.literal_ok {v : Value} (h : v.HasText) : ∃ s, v.literal = .ok s := by
  rw [literal.eq_def]
  split
  · exact ⟨_, rfl⟩
  · exact ⟨_, rfl⟩
  · exact h.plain_ok

/-- A clause can be written if its field and its operand can be shown, and a membership is in a
list of what can be shown. -/
theorem Clause.render_ok {c : Clause} (hfield : c.field.HasText) (hoperand : c.operand.HasText)
    (hlist : c.operator = .isIn → ∃ vs, c.operand = .list vs ∧ ∀ w ∈ vs, w.HasText) :
    ∃ s, c.render = .ok s := by
  obtain ⟨field, op, v⟩ := c
  obtain ⟨name, hname⟩ := hfield .bare
  have hname : field.display = .ok name := hname
  unfold Clause.render
  simp only [hname]
  cases op with
  | contains | startsWith | endsWith =>
    obtain ⟨s, hs⟩ := hoperand .bare
    have hs : v.display = .ok s := hs
    exact ⟨_, by rw [hs]; rfl⟩
  | isIn =>
    obtain ⟨vs, hlisted, hvs⟩ := hlist rfl
    obtain rfl : v = .list vs := hlisted
    obtain ⟨texts, htexts⟩ := mapM_ok fun w hw => (hvs w hw).literal_ok
    refine ⟨name ++ " in (" ++ ",".intercalate texts ++ ")", ?_⟩
    simp only [Value.elements, bind, Except.bind, htexts]
    rfl
  | equals | notEquals =>
    obtain ⟨s, hs⟩ := hoperand.literal_ok
    have hs : v.literal = .ok s := hs
    exact ⟨_, by rw [hs]; rfl⟩
  | _ =>
    obtain ⟨s, hs⟩ := hoperand.plain_ok
    have hs : v.plain = .ok s := hs
    exact ⟨_, by rw [hs]; rfl⟩

/-- A text, a truth value, or a number short enough for text. -/
inductive Value.IsOperand : Value → Prop
  | text (s : String) : IsOperand (.text s)
  | bool (b : Bool) : IsOperand (.bool b)
  | int {i : ℤ} (h : i.natAbs < 10 ^ Decimal.digitLimit) : IsOperand (.int i)
  | float (x : Binary64) : IsOperand (.float x)

/-- An operand can be shown. -/
theorem Value.IsOperand.isShowable {v : Value} (h : v.IsOperand) : v.IsShowable := by
  cases h with
  | text s => exact .text s
  | bool b => exact .bool b
  | int h => exact .int h
  | float x => exact .float x

/-- The operands that each operator is given by a flag: any operand, a number, a text, or a list of
operands. -/
def Operator.Accepts : Operator → Value → Prop
  | .equals, v | .notEquals, v => v.IsOperand
  | .greaterThan, v | .greaterOrEqual, v | .lessThan, v | .lessOrEqual, v =>
    v.IsOperand ∧ v.IsNumeric
  | .contains, v | .startsWith, v | .endsWith, v => ∃ s, v = .text s
  | .isIn, v => ∃ vs, v = .list vs ∧ ∀ w ∈ vs, w.IsOperand
  | .other _, _ => False

theorem Operator.Accepts.isShowable {op : Operator} {v : Value} (h : op.Accepts v) :
    v.IsShowable := by
  cases op with
  | equals | notEquals => exact Value.IsOperand.isShowable h
  | greaterThan | greaterOrEqual | lessThan | lessOrEqual => exact h.1.isShowable
  | contains | startsWith | endsWith =>
    obtain ⟨s, rfl⟩ := h
    exact .text s
  | isIn =>
    obtain ⟨vs, rfl, hvs⟩ := h
    exact .list fun w hw => (hvs w hw).isShowable
  | other word => exact h.elim

/-- A clause on a named field can be written if its operator accepts its operand. -/
theorem Clause.render_accepted {name : String} {op : Operator} {v : Value} (h : op.Accepts v) :
    ∃ s, (Clause.mk (.text name) op v).render = .ok s := by
  refine Clause.render_ok (Value.IsShowable.text name).render_ok h.isShowable.render_ok
    fun hin => ?_
  obtain rfl : op = .isIn := hin
  obtain ⟨vs, hvs, hoperands⟩ := h
  exact ⟨vs, hvs, fun w hw => (hoperands w hw).isShowable.render_ok⟩

/-! ## Settings -/

namespace Query

/-- A setting that a flag can make. A clause is on a field that is not empty and has no equals sign,
and an order is by a field that is not empty and has no blank. A raw expression or a search term
is anything but the divider of arguments. -/
inductive Setting.IsPlain : Setting → Prop
  | clause {field : String} {op : Operator} {v : Value} (hne : field ≠ "")
      (hsign : '=' ∉ field.toList) (hoperand : op.Accepts v) :
      IsPlain (.filter (.clause ⟨.text field, op, v⟩))
  | raw {s : String} (h : s ≠ "--") : IsPlain (.filter (.raw (.text s)))
  | orderBy {field direction : String} (hne : field ≠ "")
      (hblank : ∀ c ∈ field.toList, Text.isBlank c = false)
      (hdirection : direction = "asc" ∨ direction = "desc") :
      IsPlain (.orderBy ⟨.text field, .text direction⟩)
  | top {i : ℤ} (h : i.natAbs < 10 ^ Decimal.digitLimit) : IsPlain (.top (.int i))
  | skip {i : ℤ} (h : i.natAbs < 10 ^ Decimal.digitLimit) : IsPlain (.skip (.int i))
  | search {s : String} (h : s ≠ "--") : IsPlain (.search (.text s))

/-- Whether every part of a query can be written. -/
structure IsWritable (q : Query) : Prop where
  parts : ∀ part ∈ q.parts, ∃ text, part.render = .ok text
  order : ∀ order, q.sortOrder = some order → ∃ text, order.render = .ok text

/-- A plain setting keeps a query writable. -/
theorem IsWritable.set {q : Query} (hq : q.IsWritable) {s : Setting} (hs : s.IsPlain) :
    (q.set s).IsWritable := by
  have hpart : ∀ part : FilterPart, (∃ text, part.render = .ok text) →
      (q.set (.filter part)).IsWritable := by
    intro part hpart
    refine ⟨fun other hother => ?_, hq.order⟩
    rcases List.mem_append.mp hother with hother | hother
    · exact hq.parts other hother
    · rw [List.mem_singleton.mp hother]
      exact hpart
  cases hs with
  | clause _ _ hoperand => exact hpart _ (Clause.render_accepted hoperand)
  | raw _ => exact hpart _ ⟨_, rfl⟩
  | orderBy =>
    refine ⟨hq.parts, fun order horder => ?_⟩
    obtain rfl := Option.some.inj horder
    rw [SortOrder.render, Value.display, Value.display, Value.render, Value.render]
    exact ⟨_, rfl⟩
  | top | skip | search => exact ⟨hq.parts, hq.order⟩

/-- A query of plain settings compiles. -/
theorem compile_plain {settings : List Setting} (h : ∀ s ∈ settings, s.IsPlain) :
    ∃ fields, (settings.foldl set empty).compile = .ok fields := by
  have hfold : ∀ q : Query, q.IsWritable → (settings.foldl set q).IsWritable := by
    induction settings with
    | nil => exact fun q hq => hq
    | cons s settings ih =>
      obtain ⟨hs, hsettings⟩ := List.forall_mem_cons.mp h
      exact fun q hq => ih hsettings _ (hq.set hs)
  have hempty : empty.IsWritable := ⟨fun _ hpart => absurd hpart List.not_mem_nil, nofun⟩
  have hwritable := hfold empty hempty
  exact compile_ok hwritable.parts hwritable.order

end Query

end ContentGateway
