import Mathlib
import ContentGateway.Proofs.Address.Contents

/-!
# Dot segments in a path

A gateway, or a proxy in front of it, may take the dot segments out of the path of a request: a
segment `.` is dropped, and a segment `..` is dropped with the one before it. Dots are unreserved,
so percent encoding leaves a schema or an identifier of one or two dots as it is, while every other
one becomes a segment that stays where it is. A path is therefore left alone exactly if neither of
its names is a dot segment, and is led away from its target otherwise.

Taking the dots out is stated on characters, piece by piece from the front of the path. On a path
that is made of segments it comes to a walk over the segments, and only that walk is needed about
the paths of contents.
-/

namespace ContentGateway

namespace Path

/-! ## Taking dot segments out -/

/-- A path less its last segment and the slash in front of it. -/
def dropSegment (path : List Char) : List Char :=
  ((path.reverse.dropWhile (· ≠ '/')).drop 1).reverse

/-- Takes the dot segments out of what is left of a path, behind what was taken over before. A
beginning that is a dot segment goes, with the last segment taken over if it was `..`, and the slash
behind it stays. Any other segment is taken over with the slash in front of it. -/
def withoutDots (out : List Char) : (path : List Char) → List Char
  | [] => out
  | '.' :: '.' :: '/' :: rest => withoutDots out rest
  | '.' :: '/' :: rest => withoutDots out rest
  | '/' :: '.' :: '/' :: rest => withoutDots out ('/' :: rest)
  | ['/', '.'] => withoutDots out ['/']
  | '/' :: '.' :: '.' :: '/' :: rest => withoutDots (dropSegment out) ('/' :: rest)
  | ['/', '.', '.'] => withoutDots (dropSegment out) ['/']
  | ['.'] => out
  | ['.', '.'] => out
  | c :: rest =>
    withoutDots (out ++ c :: rest.takeWhile (· ≠ '/')) (rest.dropWhile (· ≠ '/'))
termination_by path => path.length
decreasing_by
  all_goals simp only [List.length_cons]
  all_goals try omega
  exact Nat.lt_succ_of_le (List.dropWhile_suffix _).length_le

example : withoutDots [] "/a/b/c/./../../g".toList = "/a/g".toList := by cbv

/-! ## Segment by segment -/

/-- A path that is made of segments, with a slash in front of each. -/
def spelled (segments : List (List Char)) : List Char := segments.flatMap ('/' :: ·)

/-- Whether a segment is a dot segment. -/
def IsDots (segment : List Char) : Prop := segment = ['.'] ∨ segment = ['.', '.']

instance (segment : List Char) : Decidable (IsDots segment) := inferInstanceAs (Decidable (_ ∨ _))

/-- What a segment leaves of the segments before it and of itself. -/
def enter (front : List (List Char)) (segment : List Char) : List (List Char) :=
  if segment = ['.'] then front
  else if segment = ['.', '.'] then front.dropLast
  else front ++ [segment]

/-- The segment that a dot segment leaves behind at the end of a path: an empty one. -/
def trace (segments : List (List Char)) : List (List Char) :=
  if ∃ last ∈ segments.getLast?, IsDots last then [[]] else []

/-- The segments of a path without its dot segments. -/
def settled (segments : List (List Char)) : List (List Char) :=
  segments.foldl enter [] ++ trace segments

section Segments

variable {segment tail out : List Char} {front segments : List (List Char)}

/-- Segments behind others are written behind them. -/
theorem spelled_append (front segments : List (List Char)) :
    spelled (front ++ segments) = spelled front ++ spelled segments := List.flatMap_append

theorem spelled_cons (segment : List Char) (segments : List (List Char)) :
    spelled (segment :: segments) = '/' :: (segment ++ spelled segments) := List.flatMap_cons

theorem spelled_singleton (segment : List Char) : spelled [segment] = '/' :: segment :=
  List.append_nil _

/-- What parts behind a first one are joined to by slashes. -/
theorem intercalate_eq_spelled (part : List Char) (segments : List (List Char)) :
    ['/'].intercalate (part :: segments) = part ++ spelled segments := by
  induction segments generalizing part with
  | nil => rw [List.intercalate_singleton, spelled, List.flatMap_nil, List.append_nil]
  | cons segment segments ih =>
    rw [List.intercalate_cons_cons, ih, spelled_cons, List.append_assoc]
    rfl

/-- A path that is made of segments without a slash is cut into them, behind nothing. -/
theorem splitAll_spelled (h : ∀ segment ∈ segments, '/' ∉ segment) :
    Text.splitAll '/' (spelled segments) = [] :: segments := by
  have hjoin := intercalate_eq_spelled [] segments
  rw [List.nil_append] at hjoin
  rw [← hjoin]
  exact Text.splitAll_intercalate (List.forall_mem_cons.mpr ⟨List.not_mem_nil, h⟩)
    (List.cons_ne_nil _ _)

/-- A path that is made of segments ends or goes on with a slash. -/
theorem head?_spelled (segments : List (List Char)) :
    spelled segments = [] ∨ (spelled segments).head? = some '/' := by
  cases segments with
  | nil => exact .inl rfl
  | cons segment segments => exact .inr rfl

/-- The first segment of a text reaches to the first slash. -/
theorem span_segment (hsegment : '/' ∉ segment) (htail : tail = [] ∨ tail.head? = some '/') :
    (segment ++ tail).takeWhile (· ≠ '/') = segment ∧
      (segment ++ tail).dropWhile (· ≠ '/') = tail := by
  have hall : ∀ c ∈ segment, (decide (c ≠ '/')) = true := fun c hc =>
    decide_eq_true (ne_of_mem_of_not_mem hc hsegment)
  rw [List.takeWhile_append_of_pos hall, List.dropWhile_append_of_pos hall]
  rcases htail with rfl | htail
  · simp
  · obtain ⟨rest, rfl⟩ := List.head?_eq_some_iff.mp htail
    simp

/-- The last segment of a path is dropped with its slash. -/
theorem dropSegment_spelled (hfront : ∀ segment ∈ front, '/' ∉ segment) :
    dropSegment (spelled front) = spelled front.dropLast := by
  rcases List.eq_nil_or_concat front with rfl | ⟨init, last, rfl⟩
  · rfl
  · have hlast : '/' ∉ last.reverse := by
      rw [List.mem_reverse]
      exact hfront last (by simp)
    rw [List.concat_eq_append, List.dropLast_concat, spelled_append, spelled_singleton, dropSegment,
      List.reverse_append, List.reverse_cons, List.append_assoc,
      (span_segment hlast (.inr rfl)).2, List.singleton_append, List.drop_one, List.tail_cons,
      List.reverse_reverse]

/-- A segment that is no dot segment is taken over. -/
theorem withoutDots_segment (hsegment : '/' ∉ segment) (hdots : ¬ IsDots segment)
    (htail : tail = [] ∨ tail.head? = some '/') :
    withoutDots out ('/' :: (segment ++ tail)) = withoutDots (out ++ '/' :: segment) tail := by
  obtain ⟨htake, hdrop⟩ := span_segment hsegment htail
  have hfirst : ∀ rest, segment ++ tail = rest → rest.takeWhile (· ≠ '/') = segment := by
    rintro rest rfl
    exact htake
  rw [IsDots, not_or] at hdots
  -- the other rules would begin with a dot segment up to its slash, or to the end
  rw [withoutDots, htake, hdrop]
  case x_1 => exact nofun
  case x_2 => exact nofun
  case x_3 => exact fun rest _ h => hdots.1 (hfirst _ h).symm
  case x_4 => exact fun _ h => hdots.1 (hfirst _ h).symm
  case x_5 => exact fun rest _ h => hdots.2 (hfirst _ h).symm
  case x_6 => exact fun _ h => hdots.2 (hfirst _ h).symm
  case x_7 => exact nofun
  case x_8 => exact nofun

/-- A dot segment with another one behind it goes, and takes the one before it along or not. -/
theorem withoutDots_dots (hdots : IsDots segment) (hfront : ∀ s ∈ front, '/' ∉ s)
    (next : List Char) (segments : List (List Char)) :
    withoutDots (spelled front) (spelled (segment :: next :: segments)) =
      withoutDots (spelled (enter front segment)) (spelled (next :: segments)) := by
  rcases hdots with rfl | rfl
  · exact withoutDots.eq_4 _ _
  · exact (withoutDots.eq_6 _ _).trans
      (congrArg (withoutDots · (spelled (next :: segments))) (dropSegment_spelled hfront))

/-- A dot segment at the end leaves its slash. -/
theorem withoutDots_last (hdots : IsDots segment) (hfront : ∀ s ∈ front, '/' ∉ s) :
    withoutDots (spelled front) (spelled [segment]) = spelled (enter front segment ++ [[]]) := by
  have hslash : ∀ out, withoutDots out ['/'] = out ++ ['/'] :=
    fun out => (withoutDots_segment List.not_mem_nil (by decide) (.inl rfl)).trans
      (withoutDots.eq_1 _)
  rw [spelled_append]
  rcases hdots with rfl | rfl
  · exact (withoutDots.eq_5 _).trans (hslash _)
  · refine (withoutDots.eq_7 _).trans ((hslash _).trans ?_)
    rw [dropSegment_spelled hfront]
    rfl

/-- A segment that is no dot segment comes behind those before it. -/
theorem enter_of_not_isDots (hdots : ¬ IsDots segment) :
    enter front segment = front ++ [segment] := by
  rw [IsDots, not_or] at hdots
  rw [enter, if_neg hdots.1, if_neg hdots.2]

/-- Entering a segment leaves segments that were there before or are it. -/
theorem mem_enter {s : List Char} (h : s ∈ enter front segment) :
    s ∈ front ∨ (s = segment ∧ ¬ IsDots segment) := by
  rw [enter] at h
  split at h
  · exact .inl h
  · next hdot =>
    split at h
    · exact .inl (List.mem_of_mem_dropLast h)
    · next hdots =>
      exact (List.mem_append.mp h).imp id fun h => ⟨List.mem_singleton.mp h, by simp [IsDots, *]⟩

/-- The walk over segments leaves those that were there before, and others that are no dots. -/
theorem mem_foldl_enter {s : List Char} (h : s ∈ segments.foldl enter front) :
    s ∈ front ∨ (s ∈ segments ∧ ¬ IsDots s) := by
  induction segments generalizing front with
  | nil => exact .inl h
  | cons segment segments ih =>
    rcases ih h with h | ⟨h, hdots⟩
    · rcases mem_enter h with h | ⟨rfl, hdots⟩
      · exact .inl h
      · exact .inr ⟨List.mem_cons_self, hdots⟩
    · exact .inr ⟨List.mem_cons_of_mem _ h, hdots⟩

/-- Only the last segment leaves a trace. -/
theorem trace_cons_cons (segment next : List Char) (segments : List (List Char)) :
    trace (segment :: next :: segments) = trace (next :: segments) := by
  rw [trace, List.getLast?_cons_cons, ← trace]

/-- A path without its dot segments is what the walk over its segments leaves. The induction is on
the segments that are left, and what was taken over is spelled from those that the walk has. -/
theorem withoutDots_spelled (h : ∀ s ∈ segments, '/' ∉ s) (hfront : ∀ s ∈ front, '/' ∉ s) :
    withoutDots (spelled front) (spelled segments) =
      spelled (segments.foldl enter front ++ trace segments) := by
  induction segments generalizing front with
  | nil =>
    rw [List.foldl_nil, trace, if_neg (by simp), List.append_nil]
    exact withoutDots.eq_1 _
  | cons segment segments ih =>
    obtain ⟨hsegment, hsegments⟩ := List.forall_mem_cons.mp h
    have hentered : ∀ s ∈ enter front segment, '/' ∉ s := by
      intro s hs
      rcases mem_enter hs with hs | ⟨rfl, -⟩
      · exact hfront s hs
      · exact hsegment
    by_cases hdots : IsDots segment
    · cases segments with
      | nil =>
        have htrace : trace [segment] = [[]] := if_pos ⟨segment, rfl, hdots⟩
        rw [withoutDots_last hdots hfront, htrace]
        rfl
      | cons next segments =>
        rw [withoutDots_dots hdots hfront, ih hsegments hentered, trace_cons_cons]
        rfl
    · have htrace : trace (segment :: segments) = trace segments := by
        cases segments with
        | nil => simp [trace, hdots]
        | cons next segments => exact trace_cons_cons segment next segments
      rw [spelled_cons, withoutDots_segment hsegment hdots (head?_spelled segments), htrace,
        List.foldl_cons, ← ih hsegments hentered, enter_of_not_isDots hdots, spelled_append,
        spelled_singleton]

/-- The walk over segments that are no dots takes them over. -/
theorem foldl_enter_of_forall (h : ∀ s ∈ segments, ¬ IsDots s) (front : List (List Char)) :
    segments.foldl enter front = front ++ segments := by
  induction segments generalizing front with
  | nil => exact (List.append_nil front).symm
  | cons segment segments ih =>
    obtain ⟨hdots, hsegments⟩ := List.forall_mem_cons.mp h
    rw [List.foldl_cons, ih hsegments, enter_of_not_isDots hdots, List.append_assoc,
      List.singleton_append]

/-- Segments that are no dots stay. -/
theorem settled_of_forall (h : ∀ s ∈ segments, ¬ IsDots s) : settled segments = segments := by
  have htrace : trace segments = [] :=
    if_neg fun ⟨last, hlast, hdots⟩ => h last (List.mem_of_getLast? hlast) hdots
  rw [settled, foldl_enter_of_forall h, htrace, List.append_nil, List.nil_append]

/-- A segment does no more than it does to those before it, if it is the only dot segment and not
the last. -/
theorem settled_enter {behind : List (List Char)} (hfront : ∀ s ∈ front, ¬ IsDots s)
    (segment : List Char) (hbehind : ∀ s ∈ behind, ¬ IsDots s) (hne : behind ≠ []) :
    settled (front ++ segment :: behind) = enter front segment ++ behind := by
  have htrace : trace (front ++ segment :: behind) = [] := by
    refine if_neg fun ⟨last, hlast, hdots⟩ => ?_
    rw [List.append_cons, List.getLast?_append_of_ne_nil _ hne] at hlast
    exact hbehind last (List.mem_of_getLast? hlast) hdots
  rw [settled, List.foldl_append, List.foldl_cons, foldl_enter_of_forall hfront,
    foldl_enter_of_forall hbehind, htrace, List.append_nil, List.nil_append]

/-- Whatever settles is no dot segment, and one of the segments or empty. -/
theorem mem_settled {s : List Char} (h : s ∈ settled segments) :
    ¬ IsDots s ∧ (s ∈ segments ∨ s = []) := by
  rcases List.mem_append.mp h with h | h
  · obtain ⟨h, hdots⟩ := (mem_foldl_enter h).resolve_left List.not_mem_nil
    exact ⟨hdots, .inl h⟩
  · rw [trace] at h
    split at h
    · obtain rfl := List.mem_singleton.mp h
      exact ⟨by decide, .inr rfl⟩
    · exact absurd h List.not_mem_nil

/-- A path is left alone exactly if none of its segments is a dot segment. -/
theorem withoutDots_eq_self_iff (h : ∀ s ∈ segments, '/' ∉ s) :
    withoutDots [] (spelled segments) = spelled segments ↔ ∀ s ∈ segments, ¬ IsDots s := by
  have hwalk : withoutDots [] (spelled segments) = spelled (settled segments) :=
    withoutDots_spelled h (List.forall_mem_nil _)
  rw [hwalk]
  constructor
  · intro hsame s hs
    have hsettled : ∀ s ∈ settled segments, '/' ∉ s := by
      intro s hs
      rcases (mem_settled hs).2 with hs | rfl
      · exact h s hs
      · exact List.not_mem_nil
    have hcut := congrArg (Text.splitAll '/') hsame
    rw [splitAll_spelled hsettled, splitAll_spelled h] at hcut
    rw [← (List.cons.inj hcut).2] at hs
    exact (mem_settled hs).1
  · exact fun hdots => congrArg spelled (settled_of_forall hdots)

end Segments

end Path

/-! ## Targets -/

/-- The word of an action is no dot segment. -/
theorem StatusAction.word_ne_dots (action : StatusAction) :
    action.word ≠ "." ∧ action.word ≠ ".." := by
  cases action <;> decide

namespace Path.Target

variable {t t' : Target} {path : String}

/-- Whether neither the schema nor the identifier of a target is spelt like a dot segment. -/
def IsDotless (t : Target) : Prop := ∀ name ∈ t.names, name ≠ "." ∧ name ≠ ".."

/-- Whether the path to a target becomes the path to another one when its dot segments are taken
out. -/
def LeadsTo (t t' : Target) : Prop :=
  ∃ path path', t.path = .ok path ∧ t'.path = .ok path' ∧ withoutDots [] path.toList = path'.toList

/-- Only two texts are dot segments when they are encoded. -/
theorem isDots_percent (name : String) :
    IsDots (Text.percent [] name.toList) ↔ name = "." ∨ name = ".." := by
  have hinjective : ∀ other : String,
      Text.percent [] name.toList = Text.percent [] other.toList ↔ name = other := by
    intro other
    refine ⟨fun h => ?_, fun h => by rw [h]⟩
    have hread := congrArg Parameter.decode? h
    rwa [Parameter.decode?_percent List.not_mem_nil, Parameter.decode?_percent List.not_mem_nil,
      Option.some.injEq] at hread
  exact or_congr (hinjective ".") (hinjective "..")

/-- The parts of a path are dot segments where the names of its target are. -/
theorem not_isDots_parts_iff (t : Target) : (∀ part ∈ t.parts, ¬ IsDots part) ↔ t.IsDotless := by
  have hwords : ∀ word ∈ t.words, word ≠ "." ∧ word ≠ ".." := by
    cases t with
    | statusAction schema id action => exact List.forall_mem_singleton.mpr action.word_ne_dots
    | _ => exact List.forall_mem_nil _
  rw [parts_eq, List.forall_mem_map]
  simp only [isDots_percent, not_or, titles, List.forall_mem_cons, List.forall_mem_append]
  exact ⟨fun h => h.2.2.1, fun h => ⟨by decide, by decide, h, hwords⟩⟩

/-- No part of a path to a target has a slash in it. -/
theorem slash_not_mem_part (t : Target) : ∀ part ∈ t.parts, '/' ∉ part :=
  fun _ hpart h => absurd (t.mem_part hpart h) (by decide)

/-- The path to a target is made of its parts. -/
theorem toList_path (h : t.path = .ok path) : path.toList = spelled t.parts := by
  obtain ⟨path', hpath', hparts⟩ := t.path_ok
  obtain rfl : path' = path := Except.ok.inj (hpath'.symm.trans h)
  exact hparts.trans (intercalate_eq_spelled [] t.parts)

/-- The path to a target without its dot segments is made of the parts that settle. -/
theorem withoutDots_path (h : t.path = .ok path) :
    withoutDots [] path.toList = spelled (settled t.parts) := by
  rw [toList_path h]
  exact withoutDots_spelled t.slash_not_mem_part (List.forall_mem_nil _)

/-- A target leads to the one whose parts are left of its own. -/
theorem leadsTo_of_settled (h : settled t.parts = t'.parts) : t.LeadsTo t' := by
  obtain ⟨path, hpath, -⟩ := t.path_ok
  obtain ⟨path', hpath', -⟩ := t'.path_ok
  exact ⟨path, path', hpath, hpath', by rw [withoutDots_path hpath, toList_path hpath', h]⟩

/-- A dot segment makes a target lead to another one: from an item to the collection of its
identifier, and from an action to the item or the collection that its word would name. -/
theorem misled {name : String} (hname : name ≠ "." ∧ name ≠ "..") (action : StatusAction) :
    (item "." name).LeadsTo (collection name) ∧
      (statusAction "." name action).LeadsTo (item name action.word) ∧
      (statusAction name "." action).LeadsTo (item name action.word) ∧
      (statusAction name ".." action).LeadsTo (collection action.word) := by
  have hclear : ∀ titles : List String, (∀ title ∈ titles, title ≠ "." ∧ title ≠ "..") →
      ∀ part ∈ titles.map fun title : String => Text.percent [] title.toList, ¬ IsDots part := by
    intro titles h
    rw [List.forall_mem_map]
    exact fun title htitle => by simpa [isDots_percent] using h title htitle
  have hword := action.word_ne_dots
  refine ⟨leadsTo_of_settled ?_, leadsTo_of_settled ?_, leadsTo_of_settled ?_,
    leadsTo_of_settled ?_⟩
  all_goals rw [parts_eq, parts_eq]
  · exact settled_enter (hclear ["squidex", "content"] (by decide)) ['.']
      (hclear [name] (by simp [hname])) (List.cons_ne_nil _ _)
  · exact settled_enter (hclear ["squidex", "content"] (by decide)) ['.']
      (hclear [name, action.word] (by simp [hname, hword])) (List.cons_ne_nil _ _)
  · exact settled_enter (hclear ["squidex", "content", name] (by simp [hname])) ['.']
      (hclear [action.word] (by simp [hword])) (List.cons_ne_nil _ _)
  · exact settled_enter (hclear ["squidex", "content", name] (by simp [hname])) ['.', '.']
      (hclear [action.word] (by simp [hword])) (List.cons_ne_nil _ _)

end Path.Target

end ContentGateway
