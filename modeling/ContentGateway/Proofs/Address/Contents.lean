import Mathlib
import ContentGateway.Proofs.Address.Parameters
import ContentGateway.Proofs.Transport.Target

/-!
# What a path addresses

A path of contents leads to a collection, to an item of it, or to a status action on an item. Each
part of a path is begun by a slash, and no schema and no identifier has a slash left once it is
encoded. So a path is cut at its slashes into the parts that it was made of, and what they are read
as tells its target. It holds nothing that a base or the parameters behind it could be mixed up
with.
-/

namespace ContentGateway

namespace Text

/-- Unreserved characters, and percent signs with two upper-case hexadecimal digits behind each. -/
inductive IsCoded : List Char → Prop
  | nil : IsCoded []
  | char {c : Char} {cs : List Char} (hc : isUnreserved c) (h : IsCoded cs) : IsCoded (c :: cs)
  | byte {m n : ℕ} {cs : List Char} (hm : m < 16) (hn : n < 16) (h : IsCoded cs) :
      IsCoded ('%' :: hexDigitUpper m :: hexDigitUpper n :: cs)

/-- Percent encoding that keeps nothing leaves nothing else. -/
theorem isCoded_percent (cs : List Char) : IsCoded (percent [] cs) := by
  rw [percent]
  induction encode cs with
  | nil => exact .nil
  | cons b bytes ih =>
    have hb := b.toNat_lt
    rw [percentBytes, List.flatMap_cons, ← percentBytes]
    rcases percentByte_cases [] b with ⟨-, hallowed, hform⟩ | hform
    · rw [hform]
      exact .char (hallowed.resolve_right List.not_mem_nil) ih
    · rw [hform]
      exact .byte (by omega) (by omega) ih

end Text

namespace Path

/-- What a path of contents leads to. -/
inductive Target where
  | collection (schema : String)
  | item (schema id : String)
  | statusAction (schema id : String) (action : StatusAction)

namespace Target

def path : Target → Except Fault String
  | collection schema => Path.collection (.text schema)
  | item schema id => Path.item (.text schema) (.text id)
  | statusAction schema id action => namedAction (.text schema) (.text id) (.text action.word)

def names : Target → List String
  | collection schema => [schema]
  | item schema id => [schema, id]
  | statusAction schema id _ => [schema, id]

/-- The word of the action on a target, if there is one. -/
def words : Target → List String
  | statusAction _ _ action => [action.word]
  | _ => []

/-- The parts of the path to a target. -/
def parts (t : Target) : List (List Char) :=
  "squidex".toList :: "content".toList ::
    (t.names.map (fun name => Text.percent [] name.toList) ++ t.words.map String.toList)

end Target

end Path

namespace StatusAction

/-- An action is found by its word. -/
theorem ofWord?_word (action : StatusAction) : ofWord? action.word = some action := by
  cases action <;> rfl

/-- No two actions have one word. -/
theorem word_injective : Function.Injective word := by
  intro a b h
  have hfound := congrArg ofWord? h
  rw [ofWord?_word, ofWord?_word] at hfound
  exact Option.some.inj hfound

end StatusAction

namespace Path.Target

variable (t : Target)

/-- The texts that the parts of a path stand for. -/
def titles : List String := "squidex" :: "content" :: (t.names ++ t.words)

/-- Every part of a path is the encoded form of what it stands for; a fixed word is its own. -/
theorem parts_eq : t.parts = t.titles.map fun title => Text.percent [] title.toList := by
  have hwords : t.words.map String.toList =
      t.words.map fun word => Text.percent [] word.toList := by
    cases t with
    | statusAction schema id action => cases action <;> rfl
    | _ => rfl
  rw [parts, titles, hwords, List.map_cons, List.map_cons, List.map_append]
  rfl

/-- A part of a path holds unreserved characters and percent signs only. -/
theorem mem_part {part : List Char} (hpart : part ∈ t.parts) {c : Char} (hc : c ∈ part) :
    Text.isUnreserved c ∨ c = '%' := by
  rw [parts_eq] at hpart
  obtain ⟨title, -, rfl⟩ := List.mem_map.mp hpart
  exact (Text.mem_percent hc).imp_right fun h => h.resolve_left List.not_mem_nil

/-- The path to a target is its parts, with a slash in front of each. -/
theorem path_ok : ∃ path, t.path = .ok path ∧ path.toList = ['/'].intercalate ([] :: t.parts) := by
  cases t with
  | collection schema =>
    refine ⟨_, rfl, ?_⟩
    simp [parts, names, words, List.intercalate]
  | item schema id =>
    refine ⟨_, rfl, ?_⟩
    simp [parts, names, words, List.intercalate]
  | statusAction schema id action =>
    refine ⟨"/squidex/content/" ++ String.ofList (Text.percent [] schema.toList) ++ "/" ++
      String.ofList (Text.percent [] id.toList) ++ "/" ++ action.word, ?_, ?_⟩
    · rw [path, namedAction]
      simp only [StatusAction.ofWord?_word]
      rfl
    · simp [parts, names, words, List.intercalate]

variable {t} {path : String}

/-- A path is cut at its slashes into its parts, behind nothing. -/
theorem splitAll_path (h : t.path = .ok path) : Text.splitAll '/' path.toList = [] :: t.parts := by
  obtain ⟨path', hpath', hparts⟩ := t.path_ok
  obtain rfl : path' = path := Except.ok.inj (hpath'.symm.trans h)
  rw [hparts]
  refine Text.splitAll_intercalate (fun part hpart hslash => ?_) (List.cons_ne_nil _ _)
  rcases List.mem_cons.mp hpart with rfl | hpart
  · exact List.not_mem_nil hslash
  · exact absurd (t.mem_part hpart hslash) (by decide)

/-- A path begins with a slash and has no character of a query or a fragment. -/
theorem path_chars (h : t.path = .ok path) :
    path.toList.head? = some '/' ∧ ∀ c ∈ path.toList, c ≠ '?' ∧ c ≠ '#' := by
  obtain ⟨path', hpath', hparts⟩ := t.path_ok
  obtain rfl : path' = path := Except.ok.inj (hpath'.symm.trans h)
  rw [hparts]
  refine ⟨rfl, fun c hc => ?_⟩
  rcases Text.mem_intercalate hc with rfl | ⟨part, hpart, hc⟩
  · decide
  · rcases List.mem_cons.mp hpart with rfl | hpart
    · exact absurd hc List.not_mem_nil
    · constructor <;>
      · rintro rfl
        exact absurd (t.mem_part hpart hc) (by decide)

/-- Every character of a path is a visible one of ASCII. -/
theorem path_visible (h : t.path = .ok path) :
    ∀ c ∈ path.toList, 0x21 ≤ c.toNat ∧ c.toNat < 0x7f := by
  obtain ⟨path', hpath', hparts⟩ := t.path_ok
  obtain rfl : path' = path := Except.ok.inj (hpath'.symm.trans h)
  intro c hc
  rw [hparts] at hc
  rcases Text.mem_intercalate hc with rfl | ⟨part, hpart, hc⟩
  · decide
  · rcases List.mem_cons.mp hpart with rfl | hpart
    · exact absurd hc List.not_mem_nil
    · apply Parameter.isQueryChar_bounds
      rcases t.mem_part hpart hc with hc | rfl
      · simp [Parameter.isQueryChar, hc]
      · rfl

/-- What the parts of a path are read as tells its target. -/
theorem titles_injective : Function.Injective titles := by
  intro t t' h
  simp only [titles, List.cons.injEq, true_and] at h
  cases t <;> cases t' <;> simp [names, words] at h ⊢
  · exact h
  · exact h
  · exact ⟨h.1, h.2.1, StatusAction.word_injective h.2.2⟩

/-- Two targets with one path are the same. -/
theorem eq_of_path_eq {t' : Target} (h : t.path = .ok path) (h' : t'.path = .ok path) : t = t' := by
  have hparts : t.parts = t'.parts :=
    List.cons.inj ((splitAll_path h).symm.trans (splitAll_path h')) |>.2
  have hread := congrArg (List.map Parameter.decode?) hparts
  rw [parts_eq, parts_eq, List.map_map, List.map_map] at hread
  have hdecode : Parameter.decode? ∘ (fun title : String => Text.percent [] title.toList) = some :=
    funext fun title => Parameter.decode?_percent List.not_mem_nil title
  rw [hdecode] at hread
  exact titles_injective (List.map_injective_iff.mpr (Option.some_injective _) hread)

end Path.Target

/-- The address of a path that begins with a slash is the base, less the slashes at its end, and the
path. -/
theorem Base.build_contents (address : String) {path : String}
    (h : path.toList.head? = some '/') :
    ∃ base slashes : List Char, address.toList = base ++ slashes ∧ (∀ c ∈ slashes, c = '/') ∧
      base.getLast? ≠ some '/' ∧
      (ofText address).build path [] = .ok (String.ofList base ++ path) := by
  obtain ⟨slashes, hslashes, hall⟩ := toList_ofText address
  refine ⟨(ofText address).text.toList, slashes, hslashes, hall, fun hlast => ?_, ?_⟩
  · rw [ofText, String.toList_ofList, List.getLast?_reverse] at hlast
    have hfirst := List.head?_dropWhile_not (fun c => decide (c = '/')) address.toList.reverse
    rw [hlast] at hfirst
    cases hfirst
  · rw [build_nil, locate, isWhole_eq_false h, String.ofList_toList]
    rfl

/-- A path is made of the parts `squidex` and `content`, the schema, the identifier and the word of
its action, as far as its target has them. The encoded ones hold unreserved characters and encoded
bytes, and are read as the schema and the identifier. So no other target has the path, it neither
holds nor begins a query or a fragment, and behind any base it is added as it is. -/
theorem Path.Target.path_names_target (t : Target) :
    ∃ (path : String) (coded : List (List Char)), t.path = .ok path ∧
      Text.splitAll '/' path.toList =
        [] :: "squidex".toList :: "content".toList :: (coded ++ t.words.map String.toList) ∧
      (∀ part ∈ coded, Text.IsCoded part) ∧
      coded.map Parameter.decode? = t.names.map some ∧
      (∀ t' : Target, t'.path = .ok path → t' = t) ∧
      (∀ c ∈ path.toList, c ≠ '?' ∧ c ≠ '#') ∧
      ∀ address : String, ∃ base slashes : List Char,
        address.toList = base ++ slashes ∧ (∀ c ∈ slashes, c = '/') ∧ base.getLast? ≠ some '/' ∧
        (Base.ofText address).build path [] = .ok (String.ofList base ++ path) := by
  obtain ⟨path, hpath, -⟩ := t.path_ok
  obtain ⟨hhead, hchars⟩ := path_chars hpath
  refine ⟨path, t.names.map fun name : String => Text.percent [] name.toList, hpath,
    splitAll_path hpath, fun part hpart => ?_, ?_, fun t' hpath' => eq_of_path_eq hpath' hpath,
    hchars, fun address => Base.build_contents address hhead⟩
  · obtain ⟨name, -, rfl⟩ := List.mem_map.mp hpart
    exact Text.isCoded_percent _
  · rw [List.map_map]
    exact List.map_congr_left fun name _ => Parameter.decode?_percent List.not_mem_nil name

end ContentGateway
