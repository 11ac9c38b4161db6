import Mathlib
import ContentGateway.Proofs.Decimal.Notation
import ContentGateway.Proofs.Json.RoundTrip
import ContentGateway.Proofs.Json.Writing

/-!
# What is read of leniently written JSON

The lenient writer has a form for every value that can be shown: bytes and faults are written as the
texts they are shown as, and of a name that an object has twice the first place and the last value
are read. So what it writes reads as the value with these replacements, its *JSON image*, in either
layout. A value of the kinds of JSON is its own image.

On one line a value has no newline: within quotes a newline is escaped, and nothing else puts one.
-/

namespace ContentGateway

mutual

/-- The value that is read of what is written leniently. -/
def Value.asJson : Value → Except Fault Value
  | .null => .ok .null
  | .bool b => .ok (.bool b)
  | .int i => .ok (.int i)
  | .float x => .ok (.float x)
  | .text s => .ok (.text s)
  | .unpaired t => .ok (.unpaired t)
  | .list items => do return .list (← Value.asJsonItems items)
  | .dict fields => do return .dict (Fields.ofList (← Value.asJsonFields fields))
  | .bytes data => do return .text (← (Value.bytes data).display)
  | .fault f => do return .text (← (Value.fault f).display)

def Value.asJsonItems : List Value → Except Fault (List Value)
  | [] => .ok []
  | v :: rest => do
    let image ← v.asJson
    return image :: (← Value.asJsonItems rest)

def Value.asJsonFields : List (String × Value) → Except Fault (List (String × Value))
  | [] => .ok []
  | (name, v) :: rest => do
    let image ← v.asJson
    return (name, image) :: (← Value.asJsonFields rest)

end

/-- The images of fields stand under the names of the fields. -/
theorem Value.asJsonFields_names {fields images : List (String × Value)}
    (h : Value.asJsonFields fields = .ok images) :
    images.map Prod.fst = fields.map Prod.fst := by
  induction fields generalizing images with
  | nil =>
    rw [Value.asJsonFields] at h
    cases h
    rfl
  | cons field rest ih =>
    obtain ⟨name, v⟩ := field
    rw [Value.asJsonFields] at h
    obtain ⟨image, -, h⟩ := bind_eq_ok.mp h
    obtain ⟨more, hmore, h⟩ := bind_eq_ok.mp h
    cases h
    rw [List.map_cons, List.map_cons, ih hmore]

namespace Json

variable (layout : Layout)

/-! ## Reading back -/

/-- What has no JSON form is written leniently as the text that it is shown as. -/
theorem readBy_foreign {v : Value} {form : List Char}
    (h : foreignForm .lenient v = .ok form) :
    ∃ s, v.display = .ok s ∧ ReadBy readValue form (.text s) := by
  obtain ⟨s, hs, h⟩ := bind_eq_ok.mp h
  cases h
  exact ⟨s, hs, readBy_text s⟩

/-! One case per kind of value, following the recursion of the writer. -/

mutual

/-- What is written leniently of a value is read as its JSON image. -/
theorem valueForm_lenient (depth : ℕ) : (v : Value) → (form : List Char) →
    valueForm layout .lenient depth v = .ok form → ∃ w, v.asJson = .ok w ∧ ReadBy readValue form w
  | .null, form, h => by
    rw [valueForm] at h
    cases h
    exact ⟨.null, by rw [Value.asJson], readBy_word (by simp [words])⟩
  | .bool b, form, h => by
    rw [valueForm] at h
    cases h
    refine ⟨.bool b, by rw [Value.asJson], ?_⟩
    cases b <;> exact readBy_word (by simp [words])
  | .int i, form, h => by
    rw [valueForm] at h
    obtain ⟨s, hs, h⟩ := bind_eq_ok.mp h
    cases h
    rw [Value.eq_of_wholeText hs]
    exact ⟨.int i, by rw [Value.asJson], readBy_int (Value.lt_of_wholeText hs)⟩
  | .float x, form, h => by
    rw [valueForm] at h
    cases h
    exact ⟨.float x, by rw [Value.asJson], readBy_float x⟩
  | .text s, form, h => by
    rw [valueForm] at h
    cases h
    exact ⟨.text s, by rw [Value.asJson], readBy_text s⟩
  | .unpaired t, form, h => by
    rw [valueForm] at h
    cases h
    exact ⟨.unpaired t, by rw [Value.asJson], readBy_unpaired t⟩
  | .list items, form, h => by
    rw [valueForm] at h
    obtain ⟨forms, hforms, h⟩ := bind_eq_ok.mp h
    cases h
    obtain ⟨images, himages, hread⟩ := itemForms_lenient (depth + 1) items forms hforms
    exact ⟨.list images, by rw [Value.asJson, himages]; rfl, readBy_list layout depth hread⟩
  | .dict fields, form, h => by
    rw [valueForm] at h
    obtain ⟨forms, hforms, h⟩ := bind_eq_ok.mp h
    cases h
    obtain ⟨images, himages, hread⟩ := fieldForms_lenient (depth + 1) fields forms hforms
    exact ⟨.dict (Fields.ofList images), by rw [Value.asJson, himages]; rfl,
      readBy_object layout depth hread⟩
  | .bytes data, form, h => by
    rw [valueForm] at h
    obtain ⟨s, hs, hread⟩ := readBy_foreign h
    exact ⟨.text s, by rw [Value.asJson, hs]; rfl, hread⟩
  | .fault f, form, h => by
    rw [valueForm] at h
    obtain ⟨s, hs, hread⟩ := readBy_foreign h
    exact ⟨.text s, by rw [Value.asJson, hs]; rfl, hread⟩

/-- So are the items of a list. -/
theorem itemForms_lenient (depth : ℕ) : (vs : List Value) → (forms : List (List Char)) →
    itemForms layout .lenient depth vs = .ok forms →
    ∃ ws, Value.asJsonItems vs = .ok ws ∧ List.Forall₂ (ReadBy readValue) forms ws
  | [], forms, h => by
    rw [itemForms] at h
    cases h
    exact ⟨[], by rw [Value.asJsonItems], .nil⟩
  | v :: rest, forms, h => by
    rw [itemForms] at h
    obtain ⟨form, hform, h⟩ := bind_eq_ok.mp h
    obtain ⟨more, hmore, h⟩ := bind_eq_ok.mp h
    cases h
    obtain ⟨w, hw, hread⟩ := valueForm_lenient depth v form hform
    obtain ⟨ws, hws, hreads⟩ := itemForms_lenient depth rest more hmore
    exact ⟨w :: ws, by rw [Value.asJsonItems, hw, hws]; rfl, .cons hread hreads⟩

/-- So are the fields of an object. -/
theorem fieldForms_lenient (depth : ℕ) : (fields : List (String × Value)) →
    (forms : List (List Char)) → fieldForms layout .lenient depth fields = .ok forms →
    ∃ images, Value.asJsonFields fields = .ok images ∧
      List.Forall₂ (ReadBy readField) forms images
  | [], forms, h => by
    rw [fieldForms] at h
    cases h
    exact ⟨[], by rw [Value.asJsonFields], .nil⟩
  | (name, v) :: rest, forms, h => by
    rw [fieldForms] at h
    obtain ⟨form, hform, h⟩ := bind_eq_ok.mp h
    obtain ⟨more, hmore, h⟩ := bind_eq_ok.mp h
    cases h
    obtain ⟨w, hw, hread⟩ := valueForm_lenient depth v form hform
    obtain ⟨images, himages, hreads⟩ := fieldForms_lenient depth rest more hmore
    exact ⟨(name, w) :: images, by rw [Value.asJsonFields, hw, himages]; rfl,
      .cons (readBy_field hread name) hreads⟩

end

/-- What was written leniently reads as the JSON image, whatever blanks follow. -/
theorem read_write_lenient {v : Value} {s : String} (h : write layout .lenient v = .ok s) :
    ∃ w, v.asJson = .ok w ∧
      ∀ blanks : String, (∀ c ∈ blanks.toList, isBlank c) → read (s ++ blanks) = .ok w := by
  rw [write] at h
  obtain ⟨form, hform, h⟩ := bind_eq_ok.mp h
  cases h
  obtain ⟨w, hw, hread⟩ := valueForm_lenient layout 0 v form hform
  refine ⟨w, hw, fun blanks hblanks => ?_⟩
  rw [← String.ofList_toList (s := blanks), ← String.ofList_append]
  exact read_form hread hblanks

/-- In any two layouts, writing a value leniently fails with the same, or gives texts that are read
as the same, whatever blanks follow. -/
theorem write_lenient_layouts (other : Layout) (v : Value) :
    (∃ f, write layout .lenient v = .error f ∧ write other .lenient v = .error f) ∨
      ∃ s s' w, write layout .lenient v = .ok s ∧ write other .lenient v = .ok s' ∧
        ∀ blanks : String, (∀ c ∈ blanks.toList, isBlank c) →
          read (s ++ blanks) = .ok w ∧ read (s' ++ blanks) = .ok w := by
  rcases (write_failAlike layout .lenient other v).cases with ⟨s, s', hs, hs'⟩ | hfails
  · obtain ⟨w, hw, hread⟩ := read_write_lenient layout hs
    obtain ⟨w', hw', hread'⟩ := read_write_lenient other hs'
    cases hw.symm.trans hw'
    exact .inr ⟨s, s', w, hs, hs', fun blanks hblanks =>
      ⟨hread blanks hblanks, hread' blanks hblanks⟩⟩
  · exact .inl hfails

/-! ## One line -/

/-- No character is written with a line break between quotes. -/
theorem newline_not_mem_textChar (c : Char) : '\n' ∉ textChar c := by
  by_cases hc : '\n' = c
  · rw [← hc]
    decide
  · exact not_mem_textChar hc (by decide) (by decide)

theorem newline_not_mem_textForm (s : String) : '\n' ∉ textForm s := by
  simp [textForm, newline_not_mem_textChar]

theorem newline_not_mem_brokenForm (t : Text.Broken) : '\n' ∉ brokenForm t := by
  have hpoint : ∀ p, '\n' ∉ pointForm p := by
    intro p
    cases p with
    | char c => exact newline_not_mem_textChar c
    | half n => simp [pointForm, unicodeEscape, Text.not_mem_hex (c := '\n') rfl]
  simp [brokenForm, hpoint]

theorem newline_not_mem_of_isNumeral {cs : List Char} (h : Decimal.IsNumeral cs) : '\n' ∉ cs :=
  fun hmem => absurd (h.mem '\n' hmem) (by decide)

theorem newline_not_mem_numberForm (x : Binary64) : '\n' ∉ numberForm x := by
  cases x with
  | nan => simp [numberForm]
  | infinite negative => cases negative <;> simp [numberForm]
  | finite negative rank =>
    rw [numberForm_finite, List.mem_append, not_or]
    exact ⟨by cases negative <;> decide,
      newline_not_mem_of_isNumeral (Decimal.isNumeral_rankText _)⟩

theorem newline_not_mem_enclose (depth : ℕ) {opening closing : Char} {forms : List (List Char)}
    (hopening : '\n' ≠ opening) (hclosing : '\n' ≠ closing) (h : ∀ form ∈ forms, '\n' ∉ form) :
    '\n' ∉ Layout.oneLine.enclose depth opening closing forms := by
  have hinner : '\n' ∉ (Layout.oneLine.between (depth + 1)).intercalate forms := by
    intro hmem
    rcases Text.mem_intercalate_cases hmem with hmem | ⟨form, hform, hmem⟩
    · exact absurd hmem (by simp [Layout.between])
    · exact h form hform hmem
  rw [Layout.enclose]
  split
  · simp [hopening, hclosing]
  · simp [hopening, hclosing, hinner, Layout.newLine]

variable (strictness : Strictness)

/-- What has no JSON form is written without a line break. -/
theorem newline_not_mem_foreignForm (v : Value) :
    Gives (fun form => '\n' ∉ form) (foreignForm strictness v) := by
  cases strictness with
  | strict => exact gives_error _
  | lenient => exact (gives_any _).bind fun s _ => gives_ok (newline_not_mem_textForm s)

mutual

/-- On one line, a value is written without a line break. -/
theorem newline_not_mem_valueForm (depth : ℕ) : (v : Value) →
    Gives (fun form => '\n' ∉ form) (valueForm .oneLine strictness depth v)
  | .null => by
    rw [valueForm]
    exact gives_ok (by simp)
  | .bool b => by
    rw [valueForm]
    exact gives_ok (by cases b <;> simp)
  | .int i => by
    rw [valueForm]
    intro form h
    obtain ⟨s, hs, h⟩ := bind_eq_ok.mp h
    cases h
    rw [Value.eq_of_wholeText hs]
    exact newline_not_mem_of_isNumeral (Decimal.isNumeral_intText i)
  | .float x => by
    rw [valueForm]
    exact gives_ok (newline_not_mem_numberForm x)
  | .text s => by
    rw [valueForm]
    exact gives_ok (newline_not_mem_textForm s)
  | .unpaired t => by
    rw [valueForm]
    exact gives_ok (newline_not_mem_brokenForm t)
  | .list items => by
    rw [valueForm]
    exact (newline_not_mem_itemForms (depth + 1) items).bind fun forms h =>
      gives_ok (newline_not_mem_enclose depth (by decide) (by decide) h)
  | .dict fields => by
    rw [valueForm]
    exact (newline_not_mem_fieldForms (depth + 1) fields).bind fun forms h =>
      gives_ok (newline_not_mem_enclose depth (by decide) (by decide) h)
  | .bytes data => by
    rw [valueForm]
    exact newline_not_mem_foreignForm strictness _
  | .fault f => by
    rw [valueForm]
    exact newline_not_mem_foreignForm strictness _

theorem newline_not_mem_itemForms (depth : ℕ) : (vs : List Value) →
    Gives (fun forms => ∀ form ∈ forms, '\n' ∉ form) (itemForms .oneLine strictness depth vs)
  | [] => by
    rw [itemForms]
    exact gives_ok (List.forall_mem_nil _)
  | v :: rest => by
    rw [itemForms]
    exact (newline_not_mem_valueForm depth v).bind fun form hform =>
      (newline_not_mem_itemForms depth rest).bind fun forms hforms =>
        gives_ok (List.forall_mem_cons.mpr ⟨hform, hforms⟩)

theorem newline_not_mem_fieldForms (depth : ℕ) : (fields : List (String × Value)) →
    Gives (fun forms => ∀ form ∈ forms, '\n' ∉ form) (fieldForms .oneLine strictness depth fields)
  | [] => by
    rw [fieldForms]
    exact gives_ok (List.forall_mem_nil _)
  | (name, v) :: rest => by
    rw [fieldForms]
    refine (newline_not_mem_valueForm depth v).bind fun form hform =>
      (newline_not_mem_fieldForms depth rest).bind fun forms hforms =>
        gives_ok (List.forall_mem_cons.mpr ⟨?_, hforms⟩)
    simp [newline_not_mem_textForm, hform]

end

/-- A value written on one line has no newline. -/
theorem newline_not_mem_write {v : Value} {s : String}
    (h : write .oneLine strictness v = .ok s) : '\n' ∉ s.toList := by
  rw [write] at h
  obtain ⟨form, hform, h⟩ := bind_eq_ok.mp h
  cases h
  rw [String.toList_ofList]
  exact newline_not_mem_valueForm strictness 0 v form hform

end Json

end ContentGateway
