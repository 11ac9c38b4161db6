import Mathlib
import ContentGateway.Proofs.Query.Calls

/-!
# Lineages

Queries on a workbench grow side by side. The *lineage* of a query is what was called on it and,
before the copy that it comes from, on its model, and so on back to the first query. Whatever else
was done in between, a query holds what its lineage made, and compiles to that.

A run is told backwards, the latest step first, so that a lineage is found by going back.
-/

namespace ContentGateway

/-! ## Runs -/

namespace Workbench

def count : List Step → ℕ
  | [] => 1
  | .copy _ :: earlier => count earlier + 1
  | _ :: earlier => count earlier

/-- The workbench behind a run. -/
def after : List Step → Workbench
  | [] => .empty
  | step :: earlier => ((after earlier).take step).2

def Step.index : Step → ℕ
  | .call i _ | .copy i | .build i => i

/-- Whether every step of a run is on a query that was there. -/
def IsRun : List Step → Prop
  | [] => True
  | step :: earlier => step.index < count earlier ∧ IsRun earlier

/-- The calls that a query comes from: those on it, and before the copy that it is those on its
model. -/
def lineage : List Step → ℕ → List Query.Call
  | [], _ => []
  | .call i call :: earlier, b =>
    if b = i then lineage earlier b ++ [call] else lineage earlier b
  | .copy i :: earlier, b => if b = count earlier then lineage earlier i else lineage earlier b
  | .build _ :: earlier, b => lineage earlier b

/-- What building a query gives behind a run. -/
def built (h : List Step) (b : ℕ) : Except Fault Answer := ((after h).take (.build b)).1

section Step

variable (w : Workbench) {b : ℕ}

/-- A call gives its query the setting that it makes, and leaves the others. -/
theorem get_take_call (i : ℕ) (call : Query.Call) (hb : b < w.queries.length) :
    (w.take (.call i call)).2.get b =
      if b = i then (Query.made [call]).foldl Query.set (w.get b) else w.get b := by
  have hmade : Query.made [call] = call.made?.toList := by
    rw [Query.made]
    cases h : call.made? <;> simp [h]
  rw [hmade, Query.Call.made?, take]
  cases call.setting with
  | error f => simp [Except.toOption]
  | ok s =>
    by_cases hbi : b = i
    · subst hbi
      simp [get, Except.toOption, hb]
    · simp [get, hbi, Ne.symm hbi]

/-- A copy leaves the queries that are there. -/
theorem get_take_copy (i : ℕ) (hb : b < w.queries.length) :
    (w.take (.copy i)).2.get b = w.get b := by
  rw [get, take, List.getElem?_append_left hb]
  rfl

/-- A copy starts as its model. -/
theorem get_take_copy_self (i : ℕ) : (w.take (.copy i)).2.get w.queries.length = w.get i := by
  rw [get, take]
  simp

end Step

/-- Steps change the number of queries by their copies. -/
theorem length_after (h : List Step) : (after h).queries.length = count h := by
  induction h with
  | nil => rfl
  | cons step earlier ih =>
    cases step with
    | call i call =>
      rw [after, take]
      cases call.setting with
      | ok s => simpa [count] using ih
      | error f => exact ih
    | copy i => simp [after, take, count, ih]
    | build i => exact ih

/-- A query holds what its lineage made. -/
theorem get_after {h : List Step} (hrun : IsRun h) {b : ℕ} (hb : b < count h) :
    (after h).get b = (Query.made (lineage h b)).foldl Query.set .empty := by
  induction h generalizing b with
  | nil =>
    obtain rfl : b = 0 := Nat.lt_one_iff.mp hb
    rfl
  | cons step earlier ih =>
    obtain ⟨hindex, hrun⟩ := hrun
    have hlength := length_after earlier
    cases step with
    | call i call =>
      rw [after, get_take_call _ i call (hlength.symm ▸ hb), lineage, ih hrun hb]
      by_cases hbi : b = i
      · rw [if_pos hbi, if_pos hbi, Query.made, Query.made, Query.made, List.filterMap_append,
          List.foldl_append]
      · rw [if_neg hbi, if_neg hbi]
    | copy i =>
      rw [after, lineage]
      by_cases hbc : b = count earlier
      · rw [if_pos hbc, hbc, ← hlength, get_take_copy_self]
        exact ih hrun hindex
      · have hb : b < count earlier := by
          rw [count] at hb
          omega
        rw [if_neg hbc, get_take_copy _ i (hlength.symm ▸ hb), ih hrun hb]
    | build i => exact ih hrun hb

/-! ## What does not matter -/

/-- What was done first matters only by the workbench that it left. -/
theorem after_append (later earlier : List Step) :
    after (later ++ earlier) = later.foldr (fun step w => (w.take step).2) (after earlier) := by
  induction later with
  | nil => rfl
  | cons step later ih => rw [List.cons_append, after, ih, List.foldr_cons]

/-- What comes later is the same behind workbenches that are. -/
theorem after_congr (later : List Step) {h h' : List Step} (heq : after h = after h') :
    after (later ++ h) = after (later ++ h') := by
  rw [after_append, after_append, heq]

/-- Queries are never taken away. -/
theorem count_le_append (later earlier : List Step) : count earlier ≤ count (later ++ earlier) := by
  induction later with
  | nil => exact le_rfl
  | cons step later ih =>
    apply ih.trans
    cases step with
    | copy => exact Nat.le_succ _
    | _ => exact le_rfl

/-- Steps without a call on a query leave the query as it is. -/
theorem get_of_no_call {later earlier : List Step} {b : ℕ} (hb : b < count earlier)
    (hlater : ∀ step ∈ later, ∀ call, step ≠ .call b call) :
    (after (later ++ earlier)).get b = (after earlier).get b := by
  induction later with
  | nil => rfl
  | cons step later ih =>
    obtain ⟨hstep, hlater⟩ := List.forall_mem_cons.mp hlater
    have hthere : b < (after (later ++ earlier)).queries.length := by
      rw [length_after]
      exact hb.trans_le (count_le_append later earlier)
    rw [List.cons_append, after, ← ih hlater]
    cases step with
    | call i call =>
      have hbi : b ≠ i := by
        rintro rfl
        exact hstep call rfl
      rw [get_take_call _ i call hthere, if_neg hbi]
    | copy i => exact get_take_copy _ i hthere
    | build i => rfl

/-- A call that fails is a membership in what is no sequence, and leaves the workbench as it is. -/
theorem take_of_setting_error {call : Query.Call} {f : Fault} (h : call.setting = .error f) (i : ℕ)
    (w : Workbench) : f = .misuse .wrongType ∧ (w.take (.call i call)).2 = w := by
  refine ⟨?_, by rw [take, h]⟩
  cases call with
  | filter field op operand =>
    by_cases hop : op = .isIn
    · subst hop
      rw [Query.Call.setting, Clause.membership] at h
      cases operand <;> cases h <;> rfl
    · rw [Query.Call.setting] at h
      · cases h
      · exact hop
  | _ => cases h

/-- A filter call commutes with a call of any other kind on the same query. -/
theorem take_comm (w : Workbench) (i : ℕ) {call other : Query.Call} (hcall : call.IsFilter)
    (hother : ¬ other.IsFilter) :
    ((w.take (.call i other)).2.take (.call i call)).2 =
      ((w.take (.call i call)).2.take (.call i other)).2 := by
  cases hs : call.setting with
  | error f =>
    rw [(take_of_setting_error hs i _).2, (take_of_setting_error hs i _).2]
  | ok s =>
    cases ht : other.setting with
    | error f =>
      rw [(take_of_setting_error ht i _).2, (take_of_setting_error ht i _).2]
    | ok t =>
      obtain ⟨-, part, hpart⟩ := (Query.Call.part_of_setting hs).resolve_right fun h => h.1 hcall
      obtain ⟨-, hnone⟩ := (Query.Call.part_of_setting ht).resolve_left fun h => hother h.1
      simp only [take, hs, ht, List.modify_modify_eq]
      congr 2
      funext q
      exact (Query.set_comm q hpart hnone).symm

/-! ## Building -/

/-- What building a query gives behind a run depends on its lineage alone. It fails exactly if the
lineage holds a raw expression that is no text. Otherwise it gives the filter members of the lineage
in order, joined, and the last order, limit, offset and search term. Steps without a call on the
query do not show, filter calls commute with the other calls, and neither a build nor a call that
fails changes anything. -/
theorem build_of_lineage {h : List Step} (hrun : IsRun h) {b : ℕ} (hb : b < count h)
    (hshow : ∀ call ∈ lineage h b, call.IsShowable) :
    (built h b = .error (.misuse .noSuchMember) ↔
      ∃ e, .raw e ∈ lineage h b ∧ ∀ s, e ≠ .text s) ∧
    ((∀ e, .raw e ∈ lineage h b → ∃ s, e = .text s) → ∃ texts order?,
      (Query.madeParts (lineage h b)).mapM FilterPart.render = .ok texts ∧
      (Query.lastOrder (Query.made (lineage h b))).mapM SortOrder.render = .ok order? ∧
      built h b = .ok (.built ([
        ("$filter", .ofText? (if texts = [] then none else some (" and ".intercalate texts))),
        ("$orderby", .ofText? order?),
        ("$top", Query.lastValue Query.Setting.limit? (Query.made (lineage h b))),
        ("$skip", Query.lastValue Query.Setting.offset? (Query.made (lineage h b))),
        ("$search", Query.lastValue Query.Setting.term? (Query.made (lineage h b)))].filter
          fun field => !field.2.isNull))) ∧
    (∀ later, (∀ step ∈ later, ∀ call, step ≠ .call b call) → built (later ++ h) b = built h b) ∧
    (∀ later i call other, call.IsFilter → ¬ other.IsFilter →
      after (later ++ .call i call :: .call i other :: h) =
        after (later ++ .call i other :: .call i call :: h)) ∧
    (∀ later i, after (later ++ .build i :: h) = after (later ++ h)) ∧
    ∀ later i call f, call.setting = .error f →
      f = .misuse .wrongType ∧ after (later ++ .call i call :: h) = after (later ++ h) := by
  have hbuilt : built h b =
      ((Query.made (lineage h b)).foldl Query.set .empty).compile.map .built := by
    rw [built, take, get_after hrun hb]
  refine ⟨?_, ?_, ?_, ?_, ?_, ?_⟩
  · rw [hbuilt]
    rcases Query.compile_made_cases hshow with ⟨hraw, hcompile⟩ |
      ⟨htext, texts, order?, htexts, horder⟩
    · rw [hcompile]
      exact iff_of_true rfl hraw
    · rw [Query.compile_made hshow htexts horder]
      apply iff_of_false
      · intro hfail
        cases hfail
      · rintro ⟨e, he, hne⟩
        obtain ⟨s, hs⟩ := htext e he
        exact hne s hs
  · intro htext
    rcases Query.compile_made_cases hshow with
      ⟨⟨e, he, hne⟩, -⟩ | ⟨-, texts, order?, htexts, horder⟩
    · obtain ⟨s, hs⟩ := htext e he
      exact absurd hs (hne s)
    · refine ⟨texts, order?, htexts, horder, ?_⟩
      rw [hbuilt, Query.compile_made hshow htexts horder]
      rfl
  · intro later hlater
    rw [built, built, take, take, get_of_no_call hb hlater]
  · intro later i call other hcall hother
    exact after_congr later (take_comm (after h) i hcall hother)
  · intro later i
    exact after_congr later rfl
  · intro later i call f hf
    obtain ⟨hwrong, hleft⟩ := take_of_setting_error hf i (after h)
    exact ⟨hwrong, after_congr later hleft⟩

/-- A copy that is given no text as an expression cannot be built, and its model and a later copy
do not see it. A membership in a number fails, and a limit that is taken back is not there. -/
theorem build_of_lineage_copies :
    let h : List Step := [.call 2 (.top .null), .build 0, .call 2 (.top (.int 3)), .copy 0,
      .call 0 (.filter (.text "b") .isIn (.bool true)), .call 1 (.raw .null), .copy 0,
      .call 0 (.filter (.text "a") .equals (.text "x"))]
    built h 1 = .error (.misuse .noSuchMember) ∧
      built h 2 = .ok (.built [("$filter", .text "a eq 'x'")]) := by
  intro h
  have hrun : IsRun h := by simp [h, IsRun, Step.index, count]
  constructor
  · have hlineage : lineage h 1 = [.filter (.text "a") .equals (.text "x"), .raw .null] := rfl
    have hshow : ∀ call ∈ lineage h 1, call.IsShowable := by
      simp only [hlineage, List.forall_mem_cons]
      exact ⟨⟨.text _, .text _⟩, nofun, List.forall_mem_nil _⟩
    apply (build_of_lineage hrun (by decide) hshow).1.mpr
    exact ⟨.null, by simp [hlineage], nofun⟩
  · have hlineage : lineage h 2 = [.filter (.text "a") .equals (.text "x"),
        .filter (.text "b") .isIn (.bool true), .top (.int 3), .top .null] := rfl
    have hshow : ∀ call ∈ lineage h 2, call.IsShowable := by
      simp only [hlineage, List.forall_mem_cons]
      exact ⟨⟨.text _, .text _⟩, ⟨.text _, .bool _⟩, trivial, trivial, List.forall_mem_nil _⟩
    have hraw : ∀ e, .raw e ∈ lineage h 2 → ∃ s, e = .text s := by simp [hlineage]
    obtain ⟨texts, order?, htexts, horder, hbuilt⟩ :=
      (build_of_lineage hrun (by decide) hshow).2.1 hraw
    have hwritten : (Query.madeParts (lineage h 2)).mapM FilterPart.render =
        .ok ["a eq 'x'"] := rfl
    rw [hwritten] at htexts
    cases htexts
    cases horder
    exact hbuilt

end Workbench

end ContentGateway
