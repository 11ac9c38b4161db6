import Mathlib
import ContentGateway.Address
import ContentGateway.Proofs.Steps
import ContentGateway.Proofs.Text.Basic
import ContentGateway.Proofs.Text.Percent
import ContentGateway.Proofs.Value.Display

/-!
# Parameters in an address

`Parameter.read?` takes the text behind an address apart: at every ampersand, each piece at its
first equals sign, and both halves out of percent encoding and UTF-8. It gives back the parameters
that were joined, whatever their names and values hold, since the encoded halves have neither of the
two separators.
-/

namespace ContentGateway

namespace Parameter

/-! ## Taking parameters apart -/

/-- The text that a name or a value in an address stands for. -/
def decode? (cs : List Char) : Option String := do
  let bytes ← Text.percentDecoded? cs
  (Text.decode bytes).toOption.map String.ofList

/-- The name and the value of one parameter in an address. -/
def readPair? (piece : List Char) : Option (String × String) := do
  let (name, value) ← Text.splitFirst? '=' piece
  return (← decode? name, ← decode? value)

/-- The parameters that the text behind an address stands for. -/
def read? (q : String) : Option (List (String × String)) :=
  (Text.splitAll '&' q.toList).mapM readPair?

def isQueryChar (c : Char) : Bool :=
  Text.isUnreserved c || c = '$' || c = '%' || c = '&' || c = '='

/-- A name and a value in an address, without a separator to other parameters. -/
def pieceOf (pair : String × String) : List Char :=
  Text.percent ['$'] pair.1.toList ++ '=' :: Text.percent ['$'] pair.2.toList

theorem toList_encode (s : String) : (encode s).toList = Text.percent ['$'] s.toList := by
  rw [encode, String.toList_ofList]

/-- Parameters in an address are their pieces with ampersands between them. -/
theorem toList_join (pairs : List (String × String)) :
    (join pairs).toList = ['&'].intercalate (pairs.map pieceOf) := by
  have hpiece : ∀ pair : String × String,
      (encode pair.1 ++ "=" ++ encode pair.2).toList = pieceOf pair := by
    intro pair
    simp [pieceOf, toList_encode]
  have hsep : "&".toList = ['&'] := by simp
  rw [join, String.toList_intercalate, List.map_map, hsep]
  exact congrArg _ (List.map_congr_left fun pair _ => hpiece pair)

/-- An encoded name or value has neither of the two separators. -/
theorem separator_not_mem_percent (cs : List Char) :
    '=' ∉ Text.percent ['$'] cs ∧ '&' ∉ Text.percent ['$'] cs := by
  constructor <;>
  · intro h
    rcases Text.mem_percent h with h | h | h
    · exact absurd h (by decide)
    · exact absurd h (by decide)
    · exact absurd h (by decide)

/-- The piece of one parameter has no ampersand in it. -/
theorem ampersand_not_mem_pieceOf (pair : String × String) : '&' ∉ pieceOf pair := by
  rw [pieceOf, List.mem_append, List.mem_cons]
  rintro (h | h | h)
  · exact (separator_not_mem_percent _).2 h
  · exact absurd h (by decide)
  · exact (separator_not_mem_percent _).2 h

/-- A text in percent encoding stands for that text, whatever the place keeps. -/
theorem decode?_percent {kept : List Char} (hkept : '%' ∉ kept) (s : String) :
    decode? (Text.percent kept s.toList) = some s := by
  unfold decode?
  rw [Text.percentDecoded?_percent hkept, Option.bind_eq_bind, Option.bind_some,
    Text.decode_encode]
  exact congrArg some String.ofList_toList

/-- A name and a value are read back from their piece. -/
theorem readPair?_pieceOf (pair : String × String) : readPair? (pieceOf pair) = some pair := by
  unfold readPair? pieceOf
  rw [Text.splitFirst?_append (separator_not_mem_percent _).1]
  simp only [Option.bind_eq_bind, Option.bind_some, decode?_percent (show '%' ∉ ['$'] by decide)]
  rfl

/-- Joined parameters are read back. -/
theorem read?_join {pairs : List (String × String)} (hpairs : pairs ≠ []) :
    read? (join pairs) = some pairs := by
  have hpieces : ∀ piece ∈ pairs.map pieceOf, '&' ∉ piece := by
    intro piece hpiece
    obtain ⟨pair, -, rfl⟩ := List.mem_map.mp hpiece
    exact ampersand_not_mem_pieceOf pair
  rw [read?, toList_join, Text.splitAll_intercalate hpieces (by simpa using hpairs),
    List.mapM_map]
  simp only [Function.comp_def, readPair?_pieceOf]
  exact (List.mapM_pure (m := Option) (f := id)).trans (congrArg some (List.map_id pairs))

/-- Where there is a parameter, its text is not empty. -/
theorem join_ne_nil {pairs : List (String × String)} (h : pairs ≠ []) :
    (join pairs).toList ≠ [] := by
  intro hnil
  have hread := read?_join h
  rw [read?, hnil] at hread
  cases hread

/-- Joined parameters have the characters of encoded names and values and the two separators. -/
theorem isQueryChar_of_mem_join {pairs : List (String × String)} {c : Char}
    (h : c ∈ (join pairs).toList) : isQueryChar c := by
  have hencoded : ∀ cs : List Char, c ∈ Text.percent ['$'] cs → isQueryChar c := by
    intro cs hc
    rcases Text.mem_percent hc with hc | hc | rfl
    · rw [isQueryChar, hc]
      rfl
    · rw [List.mem_singleton.mp hc]
      rfl
    · rfl
  rw [toList_join] at h
  rcases Text.mem_intercalate h with rfl | ⟨part, hpart, hc⟩
  · rfl
  · obtain ⟨pair, -, rfl⟩ := List.mem_map.mp hpart
    rcases List.mem_append.mp hc with hc | hc
    · exact hencoded _ hc
    · rcases List.mem_cons.mp hc with rfl | hc
      · rfl
      · exact hencoded _ hc

/-! ## The parameters that are there -/

/-- How a parameter is shown: a truth value by its lower-case word, any other value as it is. -/
inductive IsShown : String × Value → String × String → Prop
  | truth (name : String) (b : Bool) : IsShown (name, .bool b) (name, if b then "true" else "false")
  | other {name text : String} {v : Value} (hv : ∀ b, v ≠ .bool b) (htext : v.display = .ok text) :
    IsShown (name, v) (name, text)

/-- A parameter is shown under its name. -/
theorem IsShown.name_eq {field : String × Value} {pair : String × String} (h : IsShown field pair) :
    pair.1 = field.1 := by
  cases h <;> rfl

/-- A value is shown by its text. -/
theorem render_isShown {name text : String} {v : Value} (h : render v = .ok text) :
    IsShown (name, v) (name, text) := by
  cases v with
  | bool b =>
    cases h
    exact .truth name b
  | _ => exact .other (fun _ => Value.noConfusion) h

/-- A value that its text can stand for has a text. -/
theorem render_ok {v : Value} (h : v.IsShowable) : ∃ text, render v = .ok text := by
  cases v with
  | bool b => exact ⟨_, rfl⟩
  | _ => exact h.render_ok .bare

/-- Parameters that can be shown are, in order and without the null ones. -/
theorem present_ok {parameters : Fields}
    (h : ∀ field ∈ parameters, ∃ text, render field.2 = .ok text) :
    ∃ pairs, present parameters = .ok pairs ∧
      List.Forall₂ IsShown (parameters.filter fun field => !field.2.isNull) pairs := by
  induction parameters with
  | nil => exact ⟨[], rfl, .nil⟩
  | cons field rest ih =>
    obtain ⟨name, v⟩ := field
    obtain ⟨hv, hrest⟩ := List.forall_mem_cons.mp h
    obtain ⟨pairs, hpairs, hshown⟩ := ih hrest
    by_cases hnull : v.isNull
    · refine ⟨pairs, by rw [present, if_pos hnull, hpairs], ?_⟩
      rw [List.filter_cons_of_neg (by simpa using hnull)]
      exact hshown
    · obtain ⟨text, htext⟩ := hv
      refine ⟨(name, text) :: pairs, ?_, ?_⟩
      · rw [present, if_neg hnull, htext, hpairs]
        rfl
      · rw [List.filter_cons_of_pos (by simpa using hnull)]
        exact .cons (render_isShown htext) hshown

/-- Parameters are shown one by one, without the null ones. -/
theorem present_eq_mapM (parameters : Fields) : present parameters =
    (parameters.filter fun field => !field.2.isNull).mapM fun field =>
      (field.1, ·) <$> render field.2 := by
  induction parameters with
  | nil => rfl
  | cons field rest ih =>
    obtain ⟨name, v⟩ := field
    by_cases hnull : v.isNull
    · rw [present, if_pos hnull, List.filter_cons_of_neg (by simpa using hnull), ih]
    · rw [present, if_neg hnull, List.filter_cons_of_pos (by simpa using hnull), List.mapM_cons, ih]
      cases render v <;> rfl

/-- Parameters can be shown if each of them can that is not null. -/
theorem present_isOk_iff {parameters : Fields} : (∃ pairs, present parameters = .ok pairs) ↔
    ∀ field ∈ parameters, field.2.isNull = false → ∃ text, render field.2 = .ok text := by
  rw [present_eq_mapM]
  constructor
  · rintro ⟨pairs, hpairs⟩ field hfield hnull
    obtain ⟨pair, -, hpair⟩ := mapM_mem hpairs (List.mem_filter.mpr ⟨hfield, by simpa using hnull⟩)
    cases hrender : render field.2 with
    | error f =>
      rw [hrender] at hpair
      cases hpair
    | ok text => exact ⟨text, rfl⟩
  · intro h
    refine mapM_ok fun field hfield => ?_
    obtain ⟨hmem, hnull⟩ := List.mem_filter.mp hfield
    obtain ⟨text, htext⟩ := h field hmem (by simpa using hnull)
    exact ⟨(field.1, text), by rw [htext]; rfl⟩

/-- Values that their text can stand for are not broken texts. -/
theorem unpaired?_eq_none {parameters : Fields} (h : ∀ field ∈ parameters, field.2.IsShowable) :
    unpaired? parameters = none := by
  rw [unpaired?, List.findSome?_eq_none_iff]
  exact fun field hfield => (h field hfield).unpaired?_eq_none

/-- Setting a parameter does not decide which one is broken first, if neither the new value nor one
that it replaces is. -/
theorem unpaired?_put {parameters : Fields} {name : String} {v : Value} (hv : v.unpaired? = none)
    (hold : ∀ w, (name, w) ∈ parameters → w.unpaired? = none) :
    unpaired? (parameters.put name v) = unpaired? parameters := by
  induction parameters with
  | nil =>
    rw [Fields.put, unpaired?, List.findSome?_cons, hv]
    rfl
  | cons field rest ih =>
    obtain ⟨key, w⟩ := field
    rw [Fields.put]
    split
    · next hkey =>
      rw [unpaired?, unpaired?, List.findSome?_cons, List.findSome?_cons, hv,
        hold w (hkey ▸ List.mem_cons_self)]
    · have hrest := ih fun w hw => hold w (List.mem_cons_of_mem _ hw)
      rw [unpaired?, unpaired?] at hrest
      rw [unpaired?, unpaired?, List.findSome?_cons, List.findSome?_cons, hrest]

/-- A parameter that is not null is there. -/
theorem present_ne_nil {parameters : Fields} {pairs : List (String × String)}
    (h : present parameters = .ok pairs) {field : String × Value} (hfield : field ∈ parameters)
    (hnull : field.2.isNull = false) : pairs ≠ [] := by
  rw [present_eq_mapM] at h
  obtain ⟨pair, hpair, -⟩ := mapM_mem h (List.mem_filter.mpr ⟨hfield, by simpa using hnull⟩)
  exact List.ne_nil_of_mem hpair

/-- Nothing is shown exactly if every parameter is null. -/
theorem isShown_eq_nil_iff {parameters : Fields} {pairs : List (String × String)}
    (h : List.Forall₂ IsShown (parameters.filter fun field => !field.2.isNull) pairs) :
    pairs = [] ↔ ∀ field ∈ parameters, field.2.isNull := by
  have hlength := h.length_eq
  rw [← List.length_eq_zero_iff, ← hlength, List.length_eq_zero_iff, List.filter_eq_nil_iff]
  simp only [Bool.not_eq_true', Bool.not_eq_false]

end Parameter

namespace Base

/-- What stands between an address and its parameters. -/
def separatorFor (address : String) : String := if '?' ∈ address.toList then "&" else "?"

/-- An address without parameters that are there is the address alone; otherwise a separator and the
joined parameters follow it. -/
theorem build_eq (base : Base) (path : String) {parameters : Fields}
    {pairs : List (String × String)} (h : Parameter.present parameters = .ok pairs)
    (hwhole : Parameter.unpaired? parameters = none) :
    base.build path parameters = .ok (if pairs = [] then base.locate path
      else base.locate path ++ separatorFor (base.locate path) ++ Parameter.join pairs) := by
  unfold build
  rw [h, hwhole]
  simp only [bind, Except.bind, pure, Except.pure, List.isEmpty_iff, List.contains_iff_mem,
    separatorFor]
  split <;> rfl

/-- There is no address with a parameter that has no UTF-8 form. -/
theorem build_unencodable (base : Base) (path : String) {parameters : Fields}
    {pairs : List (String × String)} (h : Parameter.present parameters = .ok pairs)
    {t : Text.Broken} (hbroken : Parameter.unpaired? parameters = some t) :
    base.build path parameters = .error (.unencodable t) := by
  unfold build
  rw [h, hbroken]
  rfl

/-- Where there is an address, the parameters can be shown, and they are no broken texts. -/
theorem of_build_eq_ok {base : Base} {path address : String} {parameters : Fields}
    (h : base.build path parameters = .ok address) :
    (∃ pairs, Parameter.present parameters = .ok pairs) ∧
      Parameter.unpaired? parameters = none := by
  obtain ⟨pairs, hpresent, -⟩ := bind_eq_ok.mp h
  refine ⟨⟨pairs, hpresent⟩, ?_⟩
  cases hbroken : Parameter.unpaired? parameters with
  | none => rfl
  | some t => cases (build_unencodable base path hpresent hbroken).symm.trans h

/-- Without parameters, the address is that of the path. -/
theorem build_nil (base : Base) (path : String) : base.build path [] = .ok (base.locate path) := rfl

end Base

end ContentGateway
