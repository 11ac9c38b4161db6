import Mathlib
import ContentGateway.Proofs.Json.Writing
import ContentGateway.Proofs.Transport.Attempts

/-!
# Calls that cannot be made

A call is settled before anything is sent. Where that fails, the fault ends the call and no outcome
is taken off the tape. It says that a value does not fit, or that an address has no scheme, so it is
never a classified failure.
-/

namespace ContentGateway

theorem present_misfit (parameters : Fields) : OnlyMisfits (Parameter.present parameters) := by
  induction parameters with
  | nil => exact onlyMisfits_ok _
  | cons field rest ih =>
    obtain ⟨name, v⟩ := field
    rw [Parameter.present]
    split
    · exact ih
    · refine .bind ?_ fun _ => .bind ih fun _ => onlyMisfits_pure _
      cases v with
      | bool b => exact onlyMisfits_ok _
      | _ => exact Value.display_misfit _

/-- Building an address fails with misfits only: among them a text without a UTF-8 form. -/
theorem build_misfit (base : Base) (path : String) (parameters : Fields) :
    OnlyMisfits (base.build path parameters) := by
  refine .bind (present_misfit parameters) fun pairs => ?_
  dsimp only
  split
  · exact onlyMisfits_error trivial
  split
  · exact onlyMisfits_pure _
  · exact onlyMisfits_pure _

theorem mergedHeaders_misfit (settings : Settings) (headers : Fields) :
    OnlyMisfits (Request.mergedHeaders settings headers) := by
  rw [Request.mergedHeaders.eq_def]
  split
  · exact onlyMisfits_ok _
  · exact onlyMisfits_error trivial

theorem bodyFor_misfit (data : Value) : OnlyMisfits (Request.bodyFor data) := by
  rw [Request.bodyFor]
  split
  · exact onlyMisfits_ok _
  · exact .bind (Json.write_misfit _ _ data) fun _ => onlyMisfits_pure _

/-- An address that no request goes to has no scheme. -/
theorem target_error {address : String} {f : Fault} (h : Request.target address = .error f) :
    ∃ full, f = .unknownScheme full := by
  rw [Request.target] at h
  dsimp only at h
  split at h
  · cases h
  · cases h
    exact ⟨_, rfl⟩

namespace Client

variable {client : Client} {call : Call} {f : Fault}

/-- A call without an address ends before anything else is done. -/
theorem perform_of_build_error (h : client.base.build call.path call.parameters = .error f)
    (tape : Tape) : client.perform call tape = ⟨.error f, [], tape⟩ := by
  rw [perform, h, Job.error_bind]
  rfl

/-- A call that cannot be made ends by what is in its way: a misfit, or an address without a scheme.
Nothing is sent. -/
theorem perform_of_prepare_error (h : client.prepare call = .error f) (tape : Tape) :
    (f.IsMisfit ∨ ∃ address, f = .unknownScheme address) ∧
      (client.perform call tape).result = .error f ∧
      (client.perform call tape).requests = [] ∧ (client.perform call tape).rest = tape := by
  rw [prepare] at h
  rw [perform]
  -- the first step that fails is in the way
  cases haddress : client.base.build call.path call.parameters with
  | error g =>
    rw [haddress] at h
    cases h
    rw [Job.error_bind]
    exact ⟨.inl (build_misfit _ _ _ _ haddress), rfl, rfl, rfl⟩
  | ok address =>
  simp only [haddress, bind, Except.bind] at h
  rw [Job.ok_bind]
  cases hheaders : Request.mergedHeaders client.settings call.headers with
  | error g =>
    rw [hheaders] at h
    cases h
    rw [Job.error_bind]
    exact ⟨.inl (mergedHeaders_misfit _ _ _ hheaders), rfl, rfl, rfl⟩
  | ok headers =>
  simp only [hheaders] at h
  rw [Job.ok_bind]
  cases hbody : Request.bodyFor call.data with
  | error g =>
    rw [hbody] at h
    cases h
    rw [Job.error_bind]
    exact ⟨.inl (bodyFor_misfit _ _ hbody), rfl, rfl, rfl⟩
  | ok body =>
  simp only [hbody] at h
  rw [Job.ok_bind]
  unfold send
  cases htarget : Request.target address with
  | error g =>
    have hassemble : Request.assemble client.settings call.method address headers body =
        .error g := by
      rw [Request.assemble, htarget]
      rfl
    simp only [hassemble] at h ⊢
    cases h
    exact ⟨.inr (target_error htarget), rfl, rfl, rfl⟩
  | ok target =>
    rw [Request.assemble, htarget] at h
    cases h

end Client

end ContentGateway
