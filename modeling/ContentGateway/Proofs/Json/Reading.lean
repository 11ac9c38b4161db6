import Mathlib
import ContentGateway.Json.Reader
import ContentGateway.Proofs.Steps
import ContentGateway.Proofs.Value.Display
import ContentGateway.Proofs.Value.Fields

/-!
# What reading gives

The reader makes values in a few ways only: words, texts, numbers, where a whole number has no more
digits than are exchanged with text, and lists and objects of what it read before. So a property
that each of these ways keeps is one of whatever is read. A value that was read from a JSON text is
made of the kinds of JSON, and whatever a reply says can be shown.
-/

namespace ContentGateway.Json

/-- Whether a property of values is kept in every way in which the reader makes one. -/
structure IsKept (P : Value → Prop) : Prop where
  null : P .null
  bool : ∀ b, P (.bool b)
  int : ∀ i : ℤ, i.natAbs < 10 ^ Decimal.digitLimit → P (.int i)
  float : ∀ x, P (.float x)
  text : ∀ s, P (.text s)
  unpaired : ∀ t, P (.unpaired t)
  list : ∀ items : List Value, (∀ v ∈ items, P v) → P (.list items)
  object : ∀ fields : List (String × Value), (∀ field ∈ fields, P field.2) →
    P (.dict (Fields.ofList fields))

section Kept

variable {P : Value → Prop} (hkept : IsKept P)

include hkept

/-! ## Texts, numbers and words -/

/-- A property that is kept holds of the text of points. -/
theorem IsKept.ofPoints (ps : List Text.Point) : P (.ofPoints ps) := by
  rw [Value.ofPoints]
  split
  · exact hkept.unpaired _
  · exact hkept.text _

/-- It holds of a number that is read. -/
theorem IsKept.readNumber (cs : List Char) : Gives (fun front => P front.1) (readNumber cs) := by
  rw [readNumber.eq_def]
  dsimp only
  -- with the sign and without it
  split
  all_goals
    split
    · exact gives_error _
    split
    · split
      · exact gives_error _
      next hlength =>
      refine gives_ok (hkept.int _ (lt_of_eq_of_lt ?_ (lt_of_lt_of_le (Decimal.asciiValue_lt _)
        (Nat.pow_le_pow_right (by norm_num) (not_lt.mp hlength)))))
      first | exact Int.natAbs_neg _ | exact Int.natAbs_natCast _
    · exact gives_ok (hkept.float _)

/-- It holds of the value of a word. -/
theorem IsKept.readWord {cs : List Char} {found : Value × List Char}
    (h : readWord? cs = some found) : P found.1 := by
  rw [readWord?] at h
  obtain ⟨⟨word, v⟩, hmem, hfound⟩ := List.exists_of_findSome?_eq_some h
  have hv : P v := by
    simp only [words, List.mem_cons, Prod.mk.injEq, List.not_mem_nil, or_false] at hmem
    rcases hmem with ⟨-, rfl⟩ | ⟨-, rfl⟩ | ⟨-, rfl⟩ | ⟨-, rfl⟩ | ⟨-, rfl⟩ | ⟨-, rfl⟩
    · exact hkept.null
    · exact hkept.bool true
    · exact hkept.bool false
    · exact hkept.float _
    · exact hkept.float _
    · exact hkept.float _
  dsimp only at hfound
  split at hfound
  · exact Option.some.inj hfound ▸ hv
  · cases hfound

omit hkept in
/-- What follows an item keeps what holds of the item and of all that come behind a comma. -/
theorem afterItem_all {α : Type} {P : α → Prop} (closing : Char) (rest : List Char) {item : α}
    {next : List Char → Step (Front (List α))} (hitem : P item)
    (hnext : ∀ cs, Gives (fun front => ∀ a ∈ front.1, P a) (next cs)) :
    Gives (fun front => ∀ a ∈ front.1, P a) (afterItem closing rest item next) := by
  rw [afterItem]
  split
  · exact gives_error _
  split
  · refine gives_ok fun a ha => ?_
    rw [List.mem_singleton.mp ha]
    exact hitem
  split
  · refine (hnext _).bind fun front hfront => gives_ok fun a ha => ?_
    rcases List.mem_cons.mp ha with rfl | ha
    · exact hitem
    · exact hfront a ha
  · exact gives_error _

/-- Whatever the steps allowed, the property is one of each value, of all items and of all fields
that are read. By induction on the steps. -/
theorem IsKept.readValue (steps : ℕ) :
    (∀ cs, Gives (fun front => P front.1) (readValue steps cs)) ∧
    (∀ cs, Gives (fun front => ∀ v ∈ front.1, P v) (readItems steps cs)) ∧
    (∀ cs, Gives (fun front => ∀ field ∈ front.1, P field.2) (readFields steps cs)) := by
  induction steps with
  | zero =>
    refine ⟨fun cs => ?_, fun cs => ?_, fun cs => ?_⟩
    · rw [Json.readValue]
      exact gives_error _
    · rw [readItems]
      exact gives_error _
    · rw [readFields]
      exact gives_error _
  | succ steps ih =>
    obtain ⟨hvalue, hitems, hfields⟩ := ih
    refine ⟨fun cs => ?_, fun cs => ?_, fun cs => ?_⟩
    · rw [readValue.eq_def]
      dsimp only
      -- the first character opens a text, a list or an object, or begins a word or a number
      split
      · exact (gives_any _).bind fun front _ => gives_ok (hkept.ofPoints _)
      · split
        · exact gives_ok (hkept.list [] fun v hv => absurd hv List.not_mem_nil)
        · exact (hitems _).bind fun front h => gives_ok (hkept.list _ h)
      · split
        · exact gives_ok (hkept.object [] fun field hfield => absurd hfield List.not_mem_nil)
        · exact (hfields _).bind fun front h => gives_ok (hkept.object _ h)
      · split
        · next hword => exact gives_ok (hkept.readWord hword)
        · exact hkept.readNumber _
    · rw [readItems]
      exact (hvalue cs).bind fun front h => afterItem_all _ _ h hitems
    · rw [readFields]
      refine (gives_any (readName cs)).bind fun name _ => (hvalue _).bind fun front h => ?_
      exact afterItem_all (P := fun field : String × Value => P field.2) _ _ h hfields

/-- A property that every way of reading keeps is one of whatever is read. -/
theorem IsKept.of_read {s : String} {v : Value} (h : read s = .ok v) : P v := by
  have hwhole : Gives P (readWhole s.toList) := by
    rw [readWhole.eq_def]
    split
    · exact gives_error _
    · refine ((hkept.readValue _).1 _).bind fun front hfront => ?_
      dsimp only
      split
      · exact gives_ok hfront
      · exact gives_error _
  rw [read] at h
  split at h
  · next hv => exact Except.ok.inj h ▸ hwhole _ hv
  · cases h
  · cases h

end Kept

/-! ## Values of JSON -/

/-- Being a value of JSON is kept by the reader. -/
theorem isKept_isJson : IsKept Value.IsJson where
  null := .null
  bool := .bool
  int _ := .int
  float := .float
  text := .text
  unpaired := .unpaired
  list _ := .list
  object _ h := .dict (Fields.forall_mem_ofList h)

/-- A text that is read gives a JSON value. -/
theorem read_isJson {s : String} {v : Value} (h : read s = .ok v) : v.IsJson :=
  isKept_isJson.of_read h

end ContentGateway.Json
