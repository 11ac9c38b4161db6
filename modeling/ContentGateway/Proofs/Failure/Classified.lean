import Mathlib
import ContentGateway.Proofs.Steps
import ContentGateway.Proofs.Transport.Outcome
import ContentGateway.Proofs.Value.Fields

/-!
# Failed attempts as callers see them

A failed attempt with the status of a reply, or with none, is classified under that status unless
something in it cannot be shown, and what a JSON body says can be. A failure without a reply is
retryable; of the others those are that the table calls so, which are the ones of five statuses.
-/

namespace ContentGateway

/-- A step that fails with misfits only does so on every list. -/
theorem OnlyMisfits.mapM {α β : Type} {step : α → Except Fault β} {as : List α}
    (h : ∀ a, OnlyMisfits (step a)) : OnlyMisfits (as.mapM step) := by
  intro f hf
  obtain ⟨a, -, ha⟩ := mapM_error hf
  exact h a f ha

/-- A field of an object of JSON is a value of JSON, and so is null for one that is missing. -/
theorem get_isJson {fields : Fields} (h : ∀ field ∈ fields, field.2.IsJson) (name : String) :
    (Fields.get fields name).IsJson := by
  rw [Fields.get]
  cases hv : Fields.find? name fields with
  | none => exact .null
  | some v => exact h _ (Fields.mem_of_find? hv)

namespace Failure

/-! ## The table -/

def retryableStatuses : List ℤ := [429, 500, 502, 503, 504]

/-- The table calls those statuses retryable and no other. -/
theorem statusClass_retryable {s : ℤ} {kind : FailureKind} {retryable : Bool} {message : String}
    (h : statusClass (.int s) = .ok (kind, retryable, message)) :
    retryable = decide (s ∈ retryableStatuses) := by
  rw [statusClass.eq_def] at h
  dsimp only at h
  split at h
  · next row hrow =>
    cases h
    have hstatus : s = row.status := by simpa using List.find?_some hrow
    have hmem := List.mem_of_find?_eq_some hrow
    simp only [statusTable, List.mem_cons, List.not_mem_nil, or_false] at hmem
    rcases hmem with rfl | rfl | rfl | rfl | rfl | rfl | rfl | rfl | rfl <;> rw [hstatus] <;> rfl
  · next hnone =>
    cases h
    have habsent : ∀ row ∈ statusTable, s ≠ row.status := by
      simpa using List.find?_eq_none.mp hnone
    have hrows : ∀ s ∈ retryableStatuses, ∃ row ∈ statusTable, s = row.status := by decide
    refine (decide_eq_false fun hs => ?_).symm
    obtain ⟨row, hrow, hstatus⟩ := hrows s hs
    exact habsent row hrow hstatus

/-- A whole number can be looked up as a status. -/
theorem statusClass_int (s : ℤ) : ∃ row, statusClass (.int s) = .ok row := by
  rw [statusClass.eq_def]
  dsimp only
  split
  · exact ⟨_, rfl⟩
  · exact ⟨_, rfl⟩

/-- Looking up a status fails with misfits only. -/
theorem statusClass_misfit (status : Value) : OnlyMisfits (statusClass status) := by
  rw [statusClass.eq_def]
  split
  · exact onlyMisfits_error trivial
  · exact onlyMisfits_error trivial
  · split
    · exact onlyMisfits_ok _
    · exact onlyMisfits_ok _

/-! ## What a body says -/

theorem detailText_misfit (v : Value) : OnlyMisfits (detailText v) := by
  rw [detailText]
  split
  · exact onlyMisfits_ok _
  · exact onlyMisfits_ok _
  · exact v.display_misfit

theorem fieldsMessage_misfit (fields : Fields) : OnlyMisfits (fieldsMessage fields) := by
  rw [fieldsMessage]
  cases text? (fields.get "message") with
  | some s => exact onlyMisfits_ok _
  | none =>
    cases text? (fields.get "error") with
    | some s => exact onlyMisfits_ok _
    | none =>
      cases messageIn? (fields.get "error") with
      | some s => exact onlyMisfits_ok _
      | none =>
        cases fields.get "details" with
        | list entries => exact .bind (.mapM detailText_misfit) fun _ => onlyMisfits_pure _
        | _ => exact onlyMisfits_ok _

/-- So does the explanation in a body. -/
theorem bodyMessage_misfit (body : Value) : OnlyMisfits (bodyMessage body) := by
  rw [bodyMessage.eq_def]
  split
  · exact onlyMisfits_ok _
  · split
    · exact onlyMisfits_ok _
    · exact onlyMisfits_ok _
    · exact fieldsMessage_misfit _
    · exact onlyMisfits_ok _

/-- An entry of JSON in a list of details can be shown. -/
theorem detailText_ok {v : Value} (h : v.IsJson) : ∃ s, detailText v = .ok s := by
  rw [detailText]
  split
  · exact ⟨_, rfl⟩
  · exact ⟨_, rfl⟩
  · exact h.render_ok .bare

/-- What the fields of a JSON body say about a refusal can be shown. -/
theorem fieldsMessage_ok {fields : Fields} (h : ∀ field ∈ fields, field.2.IsJson) :
    ∃ said, fieldsMessage fields = .ok said := by
  have hdetails := get_isJson h "details"
  rw [fieldsMessage]
  cases text? (fields.get "message") with
  | some s => exact ⟨_, rfl⟩
  | none =>
    cases text? (fields.get "error") with
    | some s => exact ⟨_, rfl⟩
    | none =>
      cases messageIn? (fields.get "error") with
      | some s => exact ⟨_, rfl⟩
      | none =>
        -- only the entries of a list of details are shown one by one
        cases hlist : fields.get "details" with
        | list entries =>
          rw [hlist] at hdetails
          cases hdetails with
          | list hentries =>
            obtain ⟨ss, hss⟩ := mapM_ok fun v hv => detailText_ok (hentries v hv)
            exact ⟨some (commaSeparated ss), by simp only [hss]; rfl⟩
        | _ => exact ⟨_, rfl⟩

/-- What a JSON body says about a refusal can be shown. -/
theorem bodyMessage_ok {body : Value} (h : body.IsJson) :
    ∃ said, bodyMessage body = .ok said := by
  rw [bodyMessage.eq_def]
  split
  · exact ⟨none, rfl⟩
  cases h with
  | text s => exact ⟨some s, rfl⟩
  | unpaired t => exact ⟨some t.mended, rfl⟩
  | dict hmembers => exact fieldsMessage_ok hmembers
  | _ => exact ⟨none, rfl⟩

/-! ## Classified attempts -/

variable (message : String) {status body : Value} {cause : Option Fault} {g : Fault}

/-- A failed attempt is classified under its status. Without one it is retryable, otherwise as the
table says. -/
theorem classifyAttempt_eq_ok (hstatus : status.IsStatus)
    (h : classifyAttempt message status body cause = .ok g) :
    ∃ kind said details retryable, g = .classified kind said status details retryable ∧
      ((status = .null ∧ retryable = true) ∨
        ∃ s, status = .int s ∧ retryable = decide (s ∈ retryableStatuses)) := by
  rw [classifyAttempt] at h
  cases status with
  | null =>
    obtain ⟨code, -, h⟩ := bind_eq_ok.mp h
    cases h
    exact ⟨_, _, _, _, rfl, .inl ⟨rfl, rfl⟩⟩
  | int s =>
    obtain ⟨said, -, h⟩ := bind_eq_ok.mp h
    obtain ⟨⟨kind, retryable, default⟩, hclass, h⟩ := bind_eq_ok.mp h
    cases h
    exact ⟨_, _, _, _, rfl, .inr ⟨s, rfl, statusClass_retryable hclass⟩⟩
  | _ => exact hstatus.elim

theorem codeOf_misfit (f : Fault) : OnlyMisfits (codeOf f) := by
  fun_induction codeOf f with
  | case1 reason rest ih => exact ih.bind fun _ => onlyMisfits_pure _
  | case2 c args hc number hnull => exact onlyMisfits_ok _
  | case3 c args hc number hnull => exact Value.display_misfit _
  | case4 f hf hother => exact onlyMisfits_ok _

theorem causeCode_misfit (cause : Option Fault) : OnlyMisfits (causeCode cause) := by
  cases cause with
  | none => exact onlyMisfits_ok _
  | some f => exact codeOf_misfit f

/-- So does classifying an attempt. -/
theorem classifyAttempt_misfit (status body : Value) (cause : Option Fault) :
    OnlyMisfits (classifyAttempt message status body cause) := by
  rw [classifyAttempt]
  split
  · exact .bind (causeCode_misfit cause) fun _ => onlyMisfits_pure _
  · exact .bind (bodyMessage_misfit body) fun _ =>
      .bind (statusClass_misfit status) fun _ => onlyMisfits_pure _

/-- A failed attempt whose body is JSON and whose cause has a code is classified. -/
theorem classifyAttempt_ok (hstatus : status.IsStatus) (hbody : body.IsJson)
    (hcause : ∃ code, causeCode cause = .ok code) :
    ∃ g, classifyAttempt message status body cause = .ok g := by
  obtain ⟨code, hcode⟩ := hcause
  obtain ⟨said, hsaid⟩ := bodyMessage_ok hbody
  rw [classifyAttempt]
  cases status with
  | null => exact ⟨_, by rw [hcode]; rfl⟩
  | int s =>
    obtain ⟨row, hrow⟩ := statusClass_int s
    exact ⟨_, by rw [hsaid, hrow]; rfl⟩
  | _ => exact hstatus.elim

/-! ## The rule of the transport -/

/-- What the table calls retryable, the transport retries. -/
theorem retried_of_mem {s : ℤ} (h : s ∈ retryableStatuses) : s = 429 ∨ 500 ≤ s := by
  simp only [retryableStatuses, List.mem_cons, List.not_mem_nil, or_false] at h
  omega

/-- The table and the transport differ on the statuses from 500 on that the table does not hold. -/
theorem retried_ne_iff (s : ℤ) :
    decide (s ∈ retryableStatuses) ≠ decide (s = 429 ∨ 500 ≤ s) ↔
      500 ≤ s ∧ s ∉ [500, 502, 503, 504] := by
  rw [ne_eq, decide_eq_decide]
  simp only [retryableStatuses, List.mem_cons, List.not_mem_nil, or_false]
  omega

/-- What a failed attempt is classified as is retryable only if the transport retries the attempt,
and the two differ on the statuses from 500 on that the table does not hold. -/
theorem classify_agrees (hstatus : status.IsStatus)
    (h : classify (.attempt message status body cause) = .ok g) :
    ∃ kind said details retryable again, g = .classified kind said status details retryable ∧
      isRetryable (.attempt message status body cause) = .ok again ∧ (retryable → again) ∧
      (retryable ≠ again ↔ ∃ s, status = .int s ∧ 500 ≤ s ∧ s ∉ [500, 502, 503, 504]) := by
  rw [classify] at h
  obtain ⟨kind, said, details, retryable, rfl, hflag⟩ := classifyAttempt_eq_ok message hstatus h
  rw [isRetryable]
  rcases hflag with ⟨rfl, rfl⟩ | ⟨s, rfl, rfl⟩
  · exact ⟨kind, said, details, true, true, rfl, rfl, fun _ => rfl, by simp⟩
  · refine ⟨kind, said, details, _, _, rfl, statusRetryable_int s, ?_, ?_⟩
    · simpa using retried_of_mem
    · rw [retried_ne_iff]
      simp

end Failure

end ContentGateway
