import Mathlib
import ContentGateway.Value

/-!
# Fields of objects

A field that is set is found under its name, and setting it leaves every other name as it was. So no
name is in an object twice that fields were set in one after the other.
-/

namespace ContentGateway.Fields

variable {name other : String} {v : Value} {fields : Fields} {field : String × Value}

/-- A field that was set is found. -/
theorem find?_put_self (fields : Fields) : (fields.put name v).find? name = some v := by
  induction fields with
  | nil => rw [put, find?, if_pos rfl]
  | cons head rest ih =>
    obtain ⟨k, w⟩ := head
    rw [put]
    split
    · next h => rw [find?, if_pos h]
    · next h => rw [find?, if_neg h, ih]

/-- Setting a field leaves the others as they are. -/
theorem find?_put_ne (hname : name ≠ other) (fields : Fields) :
    (fields.put other v).find? name = fields.find? name := by
  induction fields with
  | nil => rw [put, find?, find?, if_neg hname.symm, find?]
  | cons head rest ih =>
    obtain ⟨k, w⟩ := head
    rw [put]
    split
    · next h => rw [find?, find?, if_neg (h ▸ hname.symm), if_neg (h ▸ hname.symm)]
    · rw [find?, find?, ih]

/-- A field of an object that was set in is the new one or one from before. -/
theorem mem_put (h : field ∈ fields.put name v) : field.2 = v ∨ field ∈ fields := by
  induction fields with
  | nil => exact .inl (congrArg Prod.snd (List.mem_singleton.mp h))
  | cons head rest ih =>
    obtain ⟨k, w⟩ := head
    rw [put] at h
    split at h
    · rcases List.mem_cons.mp h with rfl | h
      · exact .inl rfl
      · exact .inr (List.mem_cons_of_mem _ h)
    · rcases List.mem_cons.mp h with rfl | h
      · exact .inr List.mem_cons_self
      · exact (ih h).imp id (List.mem_cons_of_mem _)

/-- A field of an object that was set in is the new one or one that was not replaced. -/
theorem mem_put_iff : field ∈ fields.put name v ↔
    field = (name, v) ∨ field ∈ fields.eraseP fun other => other.1 = name := by
  induction fields with
  | nil => rw [put, List.mem_singleton, List.eraseP_nil, or_iff_left List.not_mem_nil]
  | cons head rest ih =>
    obtain ⟨k, w⟩ := head
    rw [put]
    split
    · next h =>
      subst h
      rw [List.eraseP_cons_of_pos (by simp), List.mem_cons]
    · next h =>
      rw [List.eraseP_cons_of_neg (by simpa using h), List.mem_cons, List.mem_cons, ih]
      exact or_left_comm

/-- Setting one field and taking another one away do not meet. -/
theorem eraseP_put (hname : name ≠ other) (fields : Fields) :
    (fields.put name v).eraseP (fun field => field.1 = other) =
      Fields.put name v (fields.eraseP fun field => field.1 = other) := by
  induction fields with
  | nil => rw [put, List.eraseP_cons_of_neg (by simpa using hname), List.eraseP_nil, put]
  | cons head rest ih =>
    obtain ⟨k, w⟩ := head
    by_cases hother : k = other
    · have hname' : ¬ k = name := fun h => hname (h.symm.trans hother)
      rw [put, if_neg hname', List.eraseP_cons_of_pos (by simpa using hother),
        List.eraseP_cons_of_pos (by simpa using hother)]
    · rw [List.eraseP_cons_of_neg (by simpa using hother), put, put]
      split
      · rw [List.eraseP_cons_of_neg (by simpa using hother)]
      · rw [List.eraseP_cons_of_neg (by simpa using hother), ih]

/-- What is found in an object is the value of one of its fields. -/
theorem mem_of_find? (h : fields.find? name = some v) : (name, v) ∈ fields := by
  induction fields with
  | nil => cases h
  | cons head rest ih =>
    obtain ⟨k, w⟩ := head
    rw [find?] at h
    split at h
    · next hk =>
      cases h
      rw [hk]
      exact List.mem_cons_self
    · exact List.mem_cons_of_mem _ (ih h)

/-- A field is found under a name that no other has. -/
theorem find?_of_mem (hnames : (fields.map Prod.fst).Nodup) (h : (name, v) ∈ fields) :
    fields.find? name = some v := by
  induction fields with
  | nil => exact absurd h List.not_mem_nil
  | cons head rest ih =>
    obtain ⟨k, w⟩ := head
    rw [List.map_cons, List.nodup_cons] at hnames
    rw [find?]
    rcases List.mem_cons.mp h with heq | h
    · cases heq
      rw [if_pos rfl]
    · have hother : k ≠ name := by
        rintro rfl
        exact hnames.1 (List.mem_map.mpr ⟨(k, v), h, rfl⟩)
      rw [if_neg hother, ih hnames.2 h]

/-- Nothing is found under a name that no field has. -/
theorem find?_eq_none (h : ∀ field ∈ fields, field.1 ≠ name) : fields.find? name = none := by
  cases hfound : fields.find? name with
  | none => rfl
  | some v => exact absurd rfl (h _ (mem_of_find? hfound))

/-- A field under a new name comes last. -/
theorem put_new (h : name ∉ fields.map Prod.fst) : fields.put name v = fields ++ [(name, v)] := by
  induction fields with
  | nil => rfl
  | cons head rest ih =>
    obtain ⟨k, w⟩ := head
    rw [List.map_cons, List.mem_cons, not_or] at h
    rw [put, if_neg (Ne.symm h.1), ih h.2, List.cons_append]

/-- Fields whose names differ are an object as they are. -/
theorem ofList_of_nodup (h : (fields.map Prod.fst).Nodup) : ofList fields = fields := by
  have hputAll : ∀ front : Fields, ((front ++ fields).map Prod.fst).Nodup →
      putAll front fields = front ++ fields := by
    clear h
    induction fields with
    | nil => exact fun front _ => (List.append_nil front).symm
    | cons head rest ih =>
      intro front hfront
      obtain ⟨k, w⟩ := head
      have hnew : k ∉ front.map Prod.fst := by
        rw [List.map_append, List.map_cons] at hfront
        intro hk
        exact (List.disjoint_of_nodup_append hfront) hk List.mem_cons_self
      show putAll (front.put k w) rest = _
      rw [put_new hnew, ih _ (by rwa [List.append_assoc, List.singleton_append]),
        List.append_assoc, List.singleton_append]
  exact hputAll [] h

/-- What holds of the values of several fields holds of those of the object that they are set in. -/
theorem forall_mem_ofList {P : Value → Prop} (h : ∀ field ∈ fields, P field.2) :
    ∀ field ∈ ofList fields, P field.2 := by
  have hputAll : ∀ front : Fields, (∀ field ∈ front, P field.2) →
      ∀ field ∈ putAll front fields, P field.2 := by
    induction fields with
    | nil => exact fun front hfront => hfront
    | cons head rest ih =>
      intro front hfront
      obtain ⟨hhead, hrest⟩ := List.forall_mem_cons.mp h
      refine ih hrest _ fun field hfield => ?_
      rcases mem_put hfield with heq | hmem
      · rw [heq]
        exact hhead
      · exact hfront field hmem
  exact hputAll [] fun field hfield => absurd hfield List.not_mem_nil

/-- A field that is set keeps its place or comes last. -/
theorem names_put (fields : Fields) : (fields.put name v).map Prod.fst =
    if name ∈ fields.map Prod.fst then fields.map Prod.fst else fields.map Prod.fst ++ [name] := by
  induction fields with
  | nil => rfl
  | cons head rest ih =>
    obtain ⟨k, w⟩ := head
    rw [put]
    by_cases hk : k = name
    · simp [hk]
    · rw [if_neg hk, List.map_cons, ih]
      simp only [List.map_cons, List.mem_cons, Ne.symm hk, false_or]
      split <;> rfl

/-- Setting a field names nothing twice. -/
theorem nodup_put (h : (fields.map Prod.fst).Nodup) : ((fields.put name v).map Prod.fst).Nodup := by
  rw [names_put]
  split
  · exact h
  · next hname => exact List.nodup_append.mpr ⟨h, List.nodup_singleton name, by
      rintro a ha b hb rfl
      exact hname (List.mem_singleton.mp hb ▸ ha)⟩

/-- Setting several fields names nothing twice. -/
theorem nodup_putAll (h : (fields.map Prod.fst).Nodup) (given : List (String × Value)) :
    ((fields.putAll given).map Prod.fst).Nodup := by
  induction given generalizing fields with
  | nil => exact h
  | cons head given ih => exact ih (nodup_put h)

/-- An object that fields are set in has no name twice. -/
theorem nodup_ofList (fields : List (String × Value)) : ((ofList fields).map Prod.fst).Nodup := by
  have hnone : (([] : Fields).map Prod.fst).Nodup := List.nodup_nil
  exact nodup_putAll hnone fields

end ContentGateway.Fields
