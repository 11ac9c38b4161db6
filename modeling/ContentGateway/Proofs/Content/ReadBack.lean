import Mathlib
import ContentGateway.Proofs.Command.Payload

/-!
# Contents read back

The object that describes a content is itself read as a content. What has a single name comes back
as it is, and so do the data and the version. What may be spelled in two ways comes back only if it
counts as present: the object has it under the first spelling, or not at all, and there is nothing
under the second to fall back on. So a content comes back with null where such a field does not
count as present, and from then on nothing changes.
-/

namespace ContentGateway

namespace Value

/-- A fallback that was taken once stays. -/
theorem orElse_orElse_self (v w : Value) : (v.orElse w).orElse w = v.orElse w := by
  by_cases hv : v.truthy
  · have hfirst : v.orElse w = v := if_pos hv
    rw [hfirst, hfirst]
  · have hsecond : v.orElse w = w := if_neg hv
    rw [hsecond, orElse, ite_self]

/-- Falling back on null keeps a value that counts as present, and null. -/
theorem orElse_null_eq_self_iff {v : Value} : v.orElse .null = v ↔ v.truthy ∨ v = .null := by
  by_cases hv : v.truthy
  · exact iff_of_true (if_pos hv) (.inl hv)
  · rw [orElse, if_neg hv, or_iff_right hv, eq_comm]

/-- A value that is read from two places is present or null unless the second place holds something
else that does not count as present and the first does not hold anything that does. -/
theorem orElse_present_or_null_iff {v w : Value} :
    ((v.orElse w).truthy ∨ v.orElse w = .null) ↔ v.truthy ∨ w.truthy ∨ w = .null := by
  by_cases hv : v.truthy
  · rw [orElse, if_pos hv]
    exact iff_of_true (.inl hv) (.inl hv)
  · rw [orElse, if_neg hv, or_iff_right hv]

end Value

namespace Content

/-- The names that may be spelled in two ways. -/
def spellings : List (String × String) :=
  [("createdBy", "created_by"), ("lastModified", "last_modified"),
    ("lastModifiedBy", "last_modified_by"), ("newStatus", "new_status")]

/-- A content without the values of those names that do not count as present. -/
def settled (c : Content) : Content where
  __ := c
  createdBy := c.createdBy.orElse .null
  lastModified := c.lastModified.orElse .null
  lastModifiedBy := c.lastModifiedBy.orElse .null
  newStatus := c.newStatus.orElse .null

/-- A content is settled at once. -/
theorem settled_settled (c : Content) : c.settled.settled = c.settled := by
  rw [settled, mk.injEq]
  simp only [settled, Value.orElse_orElse_self, and_self]

/-- A content is settled if each of those values counts as present or is null. -/
theorem settled_eq_self_iff {c : Content} : c.settled = c ↔
    (c.createdBy.truthy ∨ c.createdBy = .null) ∧ (c.lastModified.truthy ∨ c.lastModified = .null) ∧
      (c.lastModifiedBy.truthy ∨ c.lastModifiedBy = .null) ∧
      (c.newStatus.truthy ∨ c.newStatus = .null) := by
  obtain ⟨id, data, version, created, createdBy, lastModified, lastModifiedBy, status, newStatus⟩ :=
    c
  rw [settled, mk.injEq]
  simp only [Value.orElse_null_eq_self_iff, true_and]

/-- The object of a content is read as the settled content, with an object of data. -/
theorem ofValue_toValue (c : Content) :
    ofValue c.toValue = .ok { c.settled with data := c.data.orElse (.dict []) } := by
  by_cases hpending : c.newStatus.truthy
  · have hkept : c.newStatus.orElse .null = c.newStatus := if_pos hpending
    rw [toValue, if_pos hpending, settled, hkept]
    exact congrArg (fun v => Except.ok { c.settled with
      data := c.data.orElse (.dict []), newStatus := v }) (if_pos hpending)
  · have hnone : c.newStatus.orElse .null = .null := if_neg hpending
    rw [toValue, if_neg hpending, settled, hnone]
    rfl

variable {fields : Fields} {id : Value}

/-- What the fields of an object describe is settled unless, under one of the two-way names, the
second spelling holds something that neither counts as present nor is null, and the first does not
hold anything that counts as present. -/
theorem settled_ofFields_iff : (ofFields id fields).settled = ofFields id fields ↔
    ∀ names ∈ spellings, (Fields.get fields names.1).truthy ∨
      (Fields.get fields names.2).truthy ∨ Fields.get fields names.2 = .null := by
  rw [settled_eq_self_iff]
  simp only [ofFields, Value.orElse_present_or_null_iff, spellings, List.forall_mem_cons,
    List.not_mem_nil, false_imp_iff, implies_true, and_true]

/-- An object of a reply that has an identifier is read as a content. The object that describes the
content is read as the same content with null for each two-way name whose value does not count as
present, which leaves the content as it is exactly if no such value is there but null; from then on
the content always comes back as it is. What is printed of the content, on one line or over several,
is read as the object that describes it. -/
theorem ofValue_settled (hid : fields.find? "id" = some id) :
    ∃ c, ofValue (.dict fields) = .ok c ∧ ofValue c.toValue = .ok c.settled ∧
      (c.settled = c ↔ ∀ names ∈ spellings, (Fields.get fields names.1).truthy ∨
        (Fields.get fields names.2).truthy ∨ Fields.get fields names.2 = .null) ∧
      ofValue c.settled.toValue = .ok c.settled ∧
      ((Value.dict fields).IsDocument → ∀ layout strictness, ∃ s,
        Json.write layout strictness c.toValue = .ok s ∧
          Json.read (s ++ "\n") = .ok c.toValue) := by
  have hread : ofValue (.dict fields) = .ok (ofFields id fields) := by
    rw [ofValue, hid]
  have hdata : (ofFields id fields).data.orElse (.dict []) = (ofFields id fields).data :=
    Value.orElse_orElse_self _ _
  have hback : ofValue (ofFields id fields).toValue = .ok (ofFields id fields).settled := by
    rw [ofValue_toValue, hdata]
    rfl
  have hagain : ofValue (ofFields id fields).settled.toValue =
      .ok (ofFields id fields).settled := by
    have hkept : (ofFields id fields).settled.data.orElse (.dict []) = (ofFields id fields).data :=
      hdata
    rw [ofValue_toValue, hkept, settled_settled]
    rfl
  refine ⟨ofFields id fields, hread, hback, settled_ofFields_iff, hagain,
    fun hdocument layout strictness => ?_⟩
  obtain ⟨s, hwrite, hs⟩ := Json.read_write layout strictness (isDocument_toValue hdocument hid)
  exact ⟨s, hwrite, hs "\n" (by simp [Json.isBlank])⟩

/-- A reply about a content whose author is there, under the second spelling, but empty. -/
def authorless : Fields := [("id", .text "x"), ("created_by", .text "")]

theorem authorless_isDocument : (Value.dict authorless).IsDocument := by
  refine .dict (by decide) ?_
  rw [authorless, List.forall_mem_cons, List.forall_mem_singleton]
  exact ⟨.text "x", .text ""⟩

/-- An empty author is read back as null. -/
theorem ofValue_settled_authorless :
    ∃ c, ofValue (.dict authorless) = .ok c ∧ c.createdBy = .text "" ∧
      ofValue c.toValue = .ok c.settled ∧ c.settled.createdBy = .null ∧
      ∃ s, Json.write .oneLine .strict c.toValue = .ok s ∧
        Json.read (s ++ "\n") = .ok c.toValue := by
  have hid : Fields.find? "id" authorless = some (.text "x") := rfl
  obtain ⟨c, hread, hback, -, -, hwrite⟩ := ofValue_settled hid
  have hc : c = ofFields (.text "x") authorless := (Except.ok.inj hread).symm
  have hauthor : c.createdBy = .text "" := by
    rw [hc]
    rfl
  have hsettled : c.settled.createdBy = .null := by
    rw [hc]
    rfl
  exact ⟨c, hread, hauthor, hback, hsettled, hwrite authorless_isDocument .oneLine .strict⟩

/-- A content does not always come back as it was. -/
theorem not_forall_ofValue_toValue : ¬ ∀ fields : Fields, (Value.dict fields).IsDocument →
    (fields.find? "id").isSome →
      ∃ c, ofValue (.dict fields) = .ok c ∧ ofValue c.toValue = .ok c := by
  intro h
  obtain ⟨c, hread, hback⟩ := h authorless authorless_isDocument rfl
  cases hread
  cases hback

end Content

end ContentGateway
