import Mathlib
import ContentGateway.Proofs.Transport.Reported

/-!
# The message of a classified failure

A body may offer several explanations. Only the first of them is looked at: if it is an empty text,
the explanations behind it are passed over, and the message is the one of the attempt, or else the
one of the status. So the message is the first that is not empty among all that is offered exactly
if no empty explanation comes before one that is not.
-/

namespace ContentGateway.Failure

/-! ## Explanations -/

/-- The explanations that the fields of a body offer, in the order in which they are looked for. -/
def fieldExplanations (fields : Fields) : List (Except Fault String) :=
  ((text? (Fields.get fields "message")).toList ++ (text? (Fields.get fields "error")).toList ++
    (messageIn? (Fields.get fields "error")).toList).map .ok ++
  match Fields.get fields "details" with
  | .list entries => [commaSeparated <$> entries.mapM detailText]
  | _ => []

/-- The explanations that a body offers, in the order in which they are looked for. -/
def explanations : Value → List (Except Fault String)
  | .text s => [.ok s]
  | .unpaired t => [.ok t.mended]
  | .dict fields => fieldExplanations fields
  | _ => []

/-- The first of some offers, if there is one. -/
def firstOffered : List (Except Fault String) → Except Fault (Option String)
  | [] => .ok none
  | offer :: _ => some <$> offer

/-- What the message falls back on behind explanations: the one of the attempt, and the words of the
table. -/
def fallbacks (message default : String) : List (Except Fault String) :=
  [.ok message, .ok default]

/-- The first text that is not empty, and the empty one if there is none. A text that cannot be
written ends the search. -/
def firstSaid : List (Except Fault String) → Except Fault String
  | [] => .ok ""
  | offer :: offers => do
    let s ← offer
    if s.isEmpty then firstSaid offers else return s

section Search

variable {s : String} {offers more : List (Except Fault String)}

/-- An empty text is passed over. -/
theorem firstSaid_empty : firstSaid (.ok "" :: offers) = firstSaid offers := rfl

/-- A text that is not empty is taken. -/
theorem firstSaid_nonempty (hs : s ≠ "") : firstSaid (.ok s :: offers) = .ok s := by
  have hempty : ¬ s.isEmpty = true := by simpa using hs
  rw [firstSaid]
  exact if_neg hempty

/-- Empty texts are passed over, however many there are. -/
theorem firstSaid_append_of_empty (h : ∀ offer ∈ offers, offer = .ok "") :
    firstSaid (offers ++ more) = firstSaid more := by
  induction offers with
  | nil => rfl
  | cons offer offers ih =>
    obtain ⟨rfl, hoffers⟩ := List.forall_mem_cons.mp h
    exact ih hoffers

/-- An offer that is not empty settles the search, whatever comes behind the offers. -/
theorem exists_firstSaid_append (h : ∃ offer ∈ offers, offer ≠ .ok "") :
    ∃ said, said ≠ .ok "" ∧ ∀ more, firstSaid (offers ++ more) = said := by
  induction offers with
  | nil =>
    obtain ⟨offer, hoffer, -⟩ := h
    exact absurd hoffer List.not_mem_nil
  | cons first offers ih =>
    cases first with
    | error f => exact ⟨.error f, nofun, fun more => rfl⟩
    | ok s =>
      by_cases hs : s = ""
      · subst hs
        refine ih ?_
        obtain ⟨offer, hoffer, hsaid⟩ := h
        exact ⟨offer, (List.mem_cons.mp hoffer).resolve_left hsaid, hsaid⟩
      · exact ⟨.ok s, fun h => hs (Except.ok.inj h), fun more => firstSaid_nonempty hs⟩

theorem firstNonempty_of_ne {t : String} (hs : s ≠ "") : firstNonempty (some s) t = s := by
  rw [firstNonempty, if_neg (by simpa using hs)]

/-- Of the two that a message falls back on, the first that is not empty is found. -/
theorem firstSaid_fallbacks (s t : String) :
    firstSaid (fallbacks s t) = .ok (firstNonempty (some s) t) := by
  by_cases hs : s = ""
  · subst hs
    by_cases ht : t = ""
    · subst ht
      rfl
    · exact firstSaid_nonempty ht
  · rw [firstNonempty_of_ne hs]
    exact firstSaid_nonempty hs

/-- A text at the end that is not empty leaves no search without an answer. -/
theorem firstSaid_ne_empty (hs : s ≠ "") (offers : List (Except Fault String)) :
    firstSaid (offers ++ [.ok s]) ≠ .ok "" := by
  by_cases h : ∃ offer ∈ offers, offer ≠ .ok ""
  · obtain ⟨said, hsaid, hfirst⟩ := exists_firstSaid_append h
    rwa [hfirst]
  · rw [firstSaid_append_of_empty (by simpa using h), firstSaid_nonempty hs]
    exact fun h => hs (Except.ok.inj h)

/-- Looking at the first offer alone finds what looking at all of them does, whatever comes behind
them, exactly if that offer is not an empty text before one that is not. -/
theorem firstSaid_take_one_iff {t : String} :
    (∀ s, firstSaid (offers.take 1 ++ fallbacks s t) = firstSaid (offers ++ fallbacks s t)) ↔
      ¬ ∃ rest, offers = .ok "" :: rest ∧ ∃ offer ∈ rest, offer ≠ .ok "" := by
  constructor
  · rintro h ⟨rest, rfl, hrest⟩
    obtain ⟨said, hsaid, hfirst⟩ := exists_firstSaid_append hrest
    -- a message that no search for an explanation finds
    obtain ⟨s, hs, hother⟩ : ∃ s, s ≠ "" ∧ said ≠ .ok s := by
      cases said with
      | error f => exact ⟨"!", by decide, nofun⟩
      | ok r =>
        refine ⟨r ++ "!", by simp, fun h => ?_⟩
        simpa using congrArg String.length (Except.ok.inj h)
    refine hother ((hfirst _).symm.trans ((h s).symm.trans ?_))
    exact firstSaid_nonempty hs
  · intro h s
    cases offers with
    | nil => rfl
    | cons first rest =>
      cases first with
      | error f => rfl
      | ok r =>
        by_cases hr : r = ""
        · subst hr
          have hrest : ∀ offer ∈ rest, offer = .ok "" := by
            intro offer hoffer
            by_contra hsaid
            exact h ⟨rest, rfl, offer, hoffer, hsaid⟩
          rw [List.cons_append, firstSaid_empty, firstSaid_append_of_empty hrest]
          rfl
        · exact (firstSaid_nonempty hr).trans (firstSaid_nonempty hr).symm

end Search

/-! ## What is taken from a body -/

/-- What is taken from the fields of a body is the first explanation that they offer. -/
theorem fieldsMessage_explanations (fields : Fields) :
    fieldsMessage fields = firstOffered (fieldExplanations fields) := by
  rw [fieldsMessage, fieldExplanations]
  cases text? (Fields.get fields "message") with
  | some s => rfl
  | none =>
    cases text? (Fields.get fields "error") with
    | some s => rfl
    | none =>
      cases messageIn? (Fields.get fields "error") with
      | some s => rfl
      | none =>
        cases Fields.get fields "details" with
        | list entries =>
          dsimp only
          cases entries.mapM detailText with
          | error f => rfl
          | ok said => rfl
        | _ => rfl

/-- The message that a refusal is reported with, if it takes the first of some offers. -/
theorem firstNonempty_firstOffered (offers : List (Except Fault String))
    (message default : String) :
    (fun said => firstNonempty (some (firstNonempty said message)) default) <$>
      firstOffered offers = firstSaid (offers.take 1 ++ fallbacks message default) := by
  cases offers with
  | nil => exact (firstSaid_fallbacks message default).symm
  | cons offer offers =>
    cases offer with
    | error f => rfl
    | ok s =>
      by_cases hs : s = ""
      · subst hs
        exact (firstSaid_fallbacks message default).symm
      · have hsaid : firstNonempty (some (firstNonempty (some s) message)) default = s := by
          rw [firstNonempty_of_ne hs, firstNonempty_of_ne hs]
        rw [List.take_succ_cons, List.cons_append, firstSaid_nonempty hs]
        exact congrArg Except.ok hsaid

/-- The message that a refusal with a body is reported with is looked for in the first explanation
of the body, then in the attempt, then in the table. -/
theorem bodyMessage_explanations (body : Value) (message default : String) :
    (fun said => firstNonempty (some (firstNonempty said message)) default) <$> bodyMessage body =
      firstSaid ((explanations body).take 1 ++ fallbacks message default) := by
  rw [bodyMessage.eq_def]
  cases body with
  | text s =>
    by_cases hs : s = ""
    · -- an empty body is passed over as an empty explanation is
      subst hs
      exact (firstSaid_fallbacks message default).symm
    · rw [if_neg (by simpa [Value.truthy] using hs)]
      exact firstNonempty_firstOffered [.ok s] message default
  | unpaired t =>
    rw [if_neg (by simp [Value.truthy])]
    exact firstNonempty_firstOffered [.ok t.mended] message default
  | dict fields =>
    cases fields with
    | nil => exact (firstSaid_fallbacks message default).symm
    | cons field fields =>
      rw [if_neg (by simp [Value.truthy])]
      dsimp only
      rw [fieldsMessage_explanations]
      exact firstNonempty_firstOffered _ message default
  | _ =>
    rw [ite_self]
    exact (firstSaid_fallbacks message default).symm

/-! ## Classified refusals -/

/-- The table has words for every status. -/
theorem statusClass_default {s : ℤ} {kind : FailureKind} {retryable : Bool} {default : String}
    (h : statusClass (.int s) = .ok (kind, retryable, default)) : default ≠ "" := by
  have hrows : ∀ row ∈ statusTable, row.message ≠ "" := by decide
  rw [statusClass.eq_def] at h
  dsimp only at h
  split at h
  · next row hrow =>
    cases h
    exact hrows row (List.mem_of_find?_eq_some hrow)
  · cases h
    decide

end ContentGateway.Failure
