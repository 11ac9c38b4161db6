import Mathlib
import ContentGateway.Proofs.Json.RoundTrip

/-!
# What the strict writer refuses

A value built of whatever may be sent along with a call is of the kinds of JSON unless raw bytes or
a fault are somewhere in it, however deep. The strict writer refuses it exactly then, and always in
the same way, since nothing else that it meets before has no form.
-/

namespace ContentGateway

/-- Whether raw bytes or a fault are somewhere in a value. -/
inductive Value.HoldsForeign : Value → Prop
  | bytes (data : List UInt8) : HoldsForeign (.bytes data)
  | fault (f : Fault) : HoldsForeign (.fault f)
  | item {items : List Value} {v : Value} (hv : v ∈ items) (h : HoldsForeign v) :
      HoldsForeign (.list items)
  | field {fields : Fields} {field : String × Value} (hfield : field ∈ fields)
      (h : HoldsForeign field.2) : HoldsForeign (.dict fields)

/-- Whatever may be sent along with a call: the values of JSON that have a text, raw bytes, faults,
and lists and objects of these. -/
inductive Value.IsData : Value → Prop
  | null : IsData .null
  | bool (b : Bool) : IsData (.bool b)
  | int {i : ℤ} (h : i.natAbs < 10 ^ Decimal.digitLimit) : IsData (.int i)
  | float (x : Binary64) : IsData (.float x)
  | text (s : String) : IsData (.text s)
  | unpaired (t : Text.Broken) : IsData (.unpaired t)
  | bytes (data : List UInt8) : IsData (.bytes data)
  | fault (f : Fault) : IsData (.fault f)
  | list {items : List Value} (h : ∀ v ∈ items, IsData v) : IsData (.list items)
  | dict {fields : Fields} (hnames : (fields.map Prod.fst).Nodup)
      (h : ∀ field ∈ fields, IsData field.2) : IsData (.dict fields)

/-- Data without bytes and faults are of the kinds of JSON. -/
theorem Value.IsData.isDocument {v : Value} (h : v.IsData) (hplain : ¬ v.HoldsForeign) :
    v.IsDocument := by
  induction h with
  | null => exact .null
  | bool b => exact .bool b
  | int h => exact .int h
  | float x => exact .float x
  | text s => exact .text s
  | unpaired t => exact .unpaired t
  | bytes data => exact absurd (.bytes data) hplain
  | fault f => exact absurd (.fault f) hplain
  | list _ ih => exact .list fun v hv => ih v hv fun h => hplain (.item hv h)
  | dict hnames _ ih =>
    exact .dict hnames fun field hfield => ih field hfield fun h => hplain (.field hfield h)

namespace Json

variable (layout : Layout)

/-- The forms of items are those of each item in turn. -/
theorem itemForms_eq_mapM (strictness : Strictness) (depth : ℕ) (items : List Value) :
    itemForms layout strictness depth items = items.mapM (valueForm layout strictness depth) := by
  induction items with
  | nil => rw [itemForms, List.mapM_nil]; rfl
  | cons v items ih => rw [itemForms, List.mapM_cons, ih]

def fieldForm (strictness : Strictness) (depth : ℕ) (field : String × Value) :
    Except Fault (List Char) := do
  let form ← valueForm layout strictness depth field.2
  return textForm field.1 ++ ':' :: ' ' :: form

/-- The forms of fields are those of each field in turn. -/
theorem fieldForms_eq_mapM (strictness : Strictness) (depth : ℕ) (fields : Fields) :
    fieldForms layout strictness depth fields =
      fields.mapM (fieldForm layout strictness depth) := by
  induction fields with
  | nil => rw [fieldForms, List.mapM_nil]; rfl
  | cons field fields ih =>
    obtain ⟨name, v⟩ := field
    rw [fieldForms, List.mapM_cons, ih, fieldForm, bind_assoc]
    rfl

/-- Data with bytes or a fault somewhere have no strict form. By induction on the data: whatever
stands before them has one. -/
theorem valueForm_foreign {v : Value} (hdata : v.IsData) (h : v.HoldsForeign) (depth : ℕ) :
    valueForm layout .strict depth v = .error (.misuse .wrongType) := by
  induction hdata generalizing depth with
  | null => cases h
  | bool b => cases h
  | int _ => cases h
  | float x => cases h
  | text s => cases h
  | unpaired t => cases h
  | bytes data => rw [valueForm, foreignForm]
  | fault f => rw [valueForm, foreignForm]
  | @list items hitems ih =>
    have hforms : itemForms layout .strict (depth + 1) items = .error (.misuse .wrongType) := by
      rw [itemForms_eq_mapM]
      refine mapM_error_of_mem (fun v hv => ?_) ?_
      · by_cases hforeign : v.HoldsForeign
        · exact .inr (ih v hv hforeign _)
        · obtain ⟨form, hform, -⟩ :=
            valueForm_ok layout .strict ((hitems v hv).isDocument hforeign) (depth + 1)
          exact .inl ⟨form, hform⟩
      · cases h with
        | item hv h => exact ⟨_, hv, ih _ hv h _⟩
    rw [valueForm, hforms]
    rfl
  | @dict fields hnames hfields ih =>
    have hforms : fieldForms layout .strict (depth + 1) fields = .error (.misuse .wrongType) := by
      rw [fieldForms_eq_mapM]
      refine mapM_error_of_mem (fun field hfield => ?_) ?_
      · by_cases hforeign : field.2.HoldsForeign
        · exact .inr (by rw [fieldForm, ih field hfield hforeign]; rfl)
        · obtain ⟨form, hform, -⟩ :=
            valueForm_ok layout .strict ((hfields field hfield).isDocument hforeign) (depth + 1)
          exact .inl ⟨_, by rw [fieldForm, hform]; rfl⟩
      · cases h with
        | field hfield h => exact ⟨_, hfield, by rw [fieldForm, ih _ hfield h]; rfl⟩
    rw [valueForm, hforms]
    rfl

/-- Data with bytes or a fault somewhere are refused. -/
theorem write_strict_foreign {v : Value} (hdata : v.IsData) (h : v.HoldsForeign) :
    write layout .strict v = .error (.misuse .wrongType) := by
  rw [write, valueForm_foreign layout hdata h]
  rfl

end Json

end ContentGateway
