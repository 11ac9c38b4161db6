import Mathlib
import ContentGateway.Proofs.Value.Fields

/-!
# Fields given one after the other

An object is put together from fields that are given one after the other, some of them under one
name. It holds each name once, in the order in which the names first came up, and under it the value
that was given last. Looking a name up does not depend on the order of the fields.
-/

namespace ContentGateway.Fields

variable {name : String} {v : Value}

/-- The value that was given for a name last. -/
def lastGiven (name : String) (given : List (String × Value)) : Option Value :=
  ((given.filter fun field => field.1 = name).getLast?).map Prod.snd

/-- Later fields are set in those that earlier ones give. -/
theorem ofList_append (given more : List (String × Value)) :
    ofList (given ++ more) = putAll (ofList given) more := by
  rw [ofList, putAll, List.foldl_append]
  rfl

theorem ofList_concat (given : List (String × Value)) (field : String × Value) :
    ofList (given ++ [field]) = (ofList given).put field.1 field.2 := ofList_append given [field]

/-- A field that comes last is set last. -/
theorem putAll_concat (fields : Fields) (given : List (String × Value)) (field : String × Value) :
    fields.putAll (given ++ [field]) = (fields.putAll given).put field.1 field.2 := by
  rw [putAll, List.foldl_append]
  rfl

/-- A field that comes last decides what was given for its name. -/
theorem lastGiven_concat (name : String) (given : List (String × Value)) (field : String × Value) :
    lastGiven name (given ++ [field]) =
      if field.1 = name then some field.2 else lastGiven name given := by
  rw [lastGiven, List.filter_append]
  by_cases hname : field.1 = name
  · rw [if_pos hname, List.filter_cons_of_pos (by simpa using hname), List.filter_nil,
      List.getLast?_concat, Option.map_some]
  · rw [if_neg hname, List.filter_cons_of_neg (by simpa using hname), List.filter_nil,
      List.append_nil, lastGiven]

/-- What is found under a name was given for it last, or was there before. By induction on the
fields from behind. -/
theorem find?_putAll (name : String) (fields : Fields) (given : List (String × Value)) :
    (fields.putAll given).find? name = (lastGiven name given).or (fields.find? name) := by
  induction given using List.reverseRecOn with
  | nil => rfl
  | append_singleton given field ih =>
    rw [putAll_concat, lastGiven_concat]
    split
    · next hname => rw [← hname, find?_put_self, Option.some_or]
    · next hname => rw [find?_put_ne (Ne.symm hname), ih]

/-- What is found under a name of an object was given for it last. -/
theorem find?_ofList (name : String) (given : List (String × Value)) :
    (ofList given).find? name = lastGiven name given := by
  rw [ofList, find?_putAll, find?, Option.or_none]

/-- The names of an object are those that were given, in the order in which they came up. -/
theorem names_ofList (given : List (String × Value)) :
    (ofList given).map Prod.fst = (given.map Prod.fst).eraseDups := by
  induction given using List.reverseRecOn with
  | nil => rfl
  | append_singleton given field ih =>
    rw [ofList_concat, names_put, ih, List.map_append, List.eraseDups_append]
    by_cases hname : field.1 ∈ given.map Prod.fst
    · rw [if_pos (List.mem_eraseDups.mpr hname)]
      simp [List.removeAll, hname]
    · rw [if_neg (mt List.mem_eraseDups.mp hname)]
      simp [List.removeAll, hname, List.eraseDups_cons]

/-- Fields whose names differ are found alike in any order. -/
theorem find?_perm {fields others : Fields} (hnames : (fields.map Prod.fst).Nodup)
    (h : fields.Perm others) (name : String) : others.find? name = fields.find? name := by
  have hothers : (others.map Prod.fst).Nodup := (h.map Prod.fst).nodup_iff.mp hnames
  cases hfound : fields.find? name with
  | some v => exact find?_of_mem hothers (h.mem_iff.mp (mem_of_find? hfound))
  | none =>
    cases hother : others.find? name with
    | none => rfl
    | some v =>
      rw [find?_of_mem hnames (h.mem_iff.mpr (mem_of_find? hother))] at hfound
      cases hfound

/-! ## Objects that differ in what is given anew -/

/-- Whether a value is given for a name. -/
theorem exists_lastGiven {given : List (String × Value)} (h : (name, v) ∈ given) :
    ∃ w, lastGiven name given = some w := by
  rw [lastGiven, ← Option.isSome_iff_exists, Option.isSome_map, List.getLast?_isSome]
  exact List.ne_nil_of_mem (List.mem_filter.mpr ⟨h, decide_eq_true rfl⟩)

/-- The names of an object that fields are set in depend on nothing but its names. -/
theorem names_putAll {fields others : Fields} (hnames : fields.map Prod.fst = others.map Prod.fst)
    (given : List (String × Value)) :
    (fields.putAll given).map Prod.fst = (others.putAll given).map Prod.fst := by
  induction given generalizing fields others with
  | nil => exact hnames
  | cons field given ih => exact ih (by rw [names_put, names_put, hnames])

/-- Objects are equal that have the same names and the same value under each. -/
theorem eq_of_find? {fields others : Fields} (hnames : fields.map Prod.fst = others.map Prod.fst)
    (hnodup : (fields.map Prod.fst).Nodup) (h : ∀ name, fields.find? name = others.find? name) :
    fields = others := by
  induction fields generalizing others with
  | nil => exact (List.map_eq_nil_iff.mp hnames.symm).symm
  | cons head rest ih =>
    obtain ⟨k, v⟩ := head
    cases others with
    | nil => cases hnames
    | cons other rest' =>
    obtain ⟨k', w⟩ := other
    obtain ⟨rfl, hrest⟩ := List.cons.inj hnames
    obtain ⟨hk, hnodup⟩ := List.nodup_cons.mp hnodup
    have hvalue : v = w := by simpa [find?] using h k
    rw [hvalue, ih hrest hnodup fun name => ?_]
    -- under the first name nothing is found behind it
    have hk' : k ∉ rest'.map Prod.fst := hrest ▸ hk
    by_cases hname : k = name
    · subst hname
      rw [find?_eq_none fun field hfield => ?_, find?_eq_none fun field hfield => ?_]
      · exact fun heq => hk' (List.mem_map.mpr ⟨field, hfield, heq⟩)
      · exact fun heq => hk (List.mem_map.mpr ⟨field, hfield, heq⟩)
    · simpa [find?, hname] using h name

/-- Two objects that differ only in fields that are set anew become equal. -/
theorem putAll_congr {fields others : Fields} (hnames : fields.map Prod.fst = others.map Prod.fst)
    (hnodup : (fields.map Prod.fst).Nodup) {given : List (String × Value)}
    (h : ∀ name, lastGiven name given = none → fields.find? name = others.find? name) :
    fields.putAll given = others.putAll given := by
  refine eq_of_find? (names_putAll hnames given) (nodup_putAll hnodup given) fun name => ?_
  rw [find?_putAll, find?_putAll]
  cases hgiven : lastGiven name given with
  | none => exact h name hgiven
  | some v => rfl

end ContentGateway.Fields
