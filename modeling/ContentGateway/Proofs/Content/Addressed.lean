import Mathlib
import ContentGateway.Proofs.Address.DotSegments
import ContentGateway.Proofs.Content.Replies
import ContentGateway.Proofs.Transport.Copies

/-!
# What operations address

An operation sends nothing but its call, and its call goes to the path of what the operation is
about: the collection of a schema, an item of it, or an action on that item. A gateway that takes
the dot segments out of a path takes the request for that target exactly if neither the schema nor
the identifier is spelt like a dot segment; otherwise the path that is left is the path to no target
or to another one.
-/

namespace ContentGateway

namespace Operation

/-- What an operation is about. -/
def target (schema : String) : Operation → Path.Target
  | .list _ | .create .. => .collection schema
  | .get id | .update id .. | .delete id _ => .item schema id
  | .changeStatus id action => .statusAction schema id action

variable {client : Client} {schema : String} {op : Operation} {tape : Tape}

/-- The call of an operation goes to the path of what the operation is about. -/
theorem path_of_call {call : Call} (hcall : op.call schema = .ok call) :
    (op.target schema).path = .ok call.path := by
  cases op with
  | list selection =>
    obtain ⟨path, hpath, hcall⟩ := bind_eq_ok.mp hcall
    obtain ⟨parameters, -, hcall⟩ := bind_eq_ok.mp hcall
    cases hcall
    exact hpath
  | update id data options =>
    obtain ⟨headers, -, hcall⟩ := bind_eq_ok.mp hcall
    obtain ⟨path, hpath, hcall⟩ := bind_eq_ok.mp hcall
    cases hcall
    exact hpath
  | changeStatus id action =>
    obtain ⟨path, hpath, hcall⟩ := bind_eq_ok.mp hcall
    cases hcall
    rw [target, Path.Target.path, Path.namedAction]
    simp only [StatusAction.ofWord?_word]
    exact hpath
  | get | create | delete =>
    obtain ⟨path, hpath, hcall⟩ := bind_eq_ok.mp hcall
    cases hcall
    exact hpath

/-- Whatever an operation sends is the request of its call: what it makes of a reply sends nothing,
and neither does a call that cannot be made. -/
theorem call_of_sent {request : Request} (hsent : request ∈ (op.run client schema tape).requests) :
    ∃ call h, op.call schema = .ok call ∧ client.prepare call = .ok (h, request) := by
  rw [run_eq] at hsent
  cases hcall : op.call schema with
  | error f =>
    rw [hcall, Job.error_bind] at hsent
    exact absurd hsent List.not_mem_nil
  | ok call =>
    rw [hcall, Job.ok_bind, Job.requests_bind fun _ _ => rfl] at hsent
    obtain ⟨h, hprepare⟩ := Client.prepare_of_sent hsent
    exact ⟨call, h, rfl, hprepare⟩

end Operation

/-- A gateway that takes the dot segments out of the path to a target finds the parts of the path
that settle. It leaves the path alone, and is led to the target at all, exactly if neither the
schema nor the identifier is `.` or `..`. This is the path of every request that is sent by an
operation on the target. -/
theorem Path.Target.path_settles_iff (t : Target) :
    ∃ path, t.path = .ok path ∧
      Text.splitAll '/' (withoutDots [] path.toList) = [] :: settled t.parts ∧
      (withoutDots [] path.toList = path.toList ↔ ∀ name ∈ t.names, name ≠ "." ∧ name ≠ "..") ∧
      (∀ t' : Target, t.LeadsTo t' →
        (t' = t ↔ ∀ name ∈ t.names, name ≠ "." ∧ name ≠ "..")) ∧
      ∀ (client : Client) (schema : String) (op : Operation) (tape : Tape),
        op.target schema = t → ∀ request ∈ (op.run client schema tape).requests,
          ∃ call h, call.path = path ∧ client.prepare call = .ok (h, request) := by
  obtain ⟨path, hpath, -⟩ := t.path_ok
  have hself : withoutDots [] path.toList = path.toList ↔ t.IsDotless := by
    rw [toList_path hpath, withoutDots_eq_self_iff t.slash_not_mem_part]
    exact t.not_isDots_parts_iff
  refine ⟨path, hpath, ?_, hself, ?_, ?_⟩
  · rw [withoutDots_path hpath]
    refine splitAll_spelled fun part hpart => ?_
    rcases (mem_settled hpart).2 with hpart | rfl
    · exact t.slash_not_mem_part part hpart
    · exact List.not_mem_nil
  · rintro t' ⟨first, last, hfirst, hlast, hleads⟩
    obtain rfl : first = path := Except.ok.inj (hfirst.symm.trans hpath)
    rw [← IsDotless, ← hself, hleads]
    constructor
    · rintro rfl
      rw [Except.ok.inj (hlast.symm.trans hpath)]
    · intro hsame
      rw [String.toList_injective hsame] at hlast
      exact eq_of_path_eq hlast hpath
  · rintro client schema op tape rfl request hsent
    obtain ⟨call, h, hcall, hprepare⟩ := Operation.call_of_sent hsent
    exact ⟨call, h, Except.ok.inj ((Operation.path_of_call hcall).symm.trans hpath), hprepare⟩

/-- An identifier of two dots leaves the path to its item, and so does what is deleted there. -/
theorem Path.Target.path_settles_iff_above :
    (item "questions" "..").path = .ok "/squidex/content/questions/.." ∧
      withoutDots [] "/squidex/content/questions/..".toList = "/squidex/content/".toList ∧
      ¬ (item "questions" "..").LeadsTo (item "questions" "..") := by
  obtain ⟨path, hpath, -, -, hself, -⟩ := path_settles_iff (item "questions" "..")
  refine ⟨rfl, by cbv, fun h => ?_⟩
  exact ((hself _ h).mp rfl ".." (by simp [names])).2 rfl

end ContentGateway
