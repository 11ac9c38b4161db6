import Mathlib
import ContentGateway.Failure.Classify

/-!
# The fault behind a cause

A fault may name another one as its reason, and that one a third. The chain of reasons ends in the
first fault that has a number or names no fault as its reason, and this one tells the code, however
often it is wrapped: by its number, or by its label if it has no number. An empty text of a number
is the code only of a fault that is not wrapped, since a wrapper takes an empty code for none and
tells its reason by its label.

A wrapper looks no further than at the code of its own reason, so the statement about the last fault
is an induction on the chain, which carries along whether the last fault is wrapped by then.
-/

namespace ContentGateway

namespace Fault

/-- The number that a fault was reported with, null where it has none. -/
def number : Fault → Value
  | .condition c args => Failure.systemNumber c args
  | _ => .null

/-- The fault that a fault names as its reason. -/
def reason? : Fault → Option Fault
  | .condition .unreachable (.fault reason :: _) => some reason
  | _ => none

/-- The chain of reasons of a fault ends so many reasons behind it in a fault that has a number or
names no fault as its reason. No fault before the last has a number. -/
inductive EndsIn : Fault → ℕ → Fault → Prop
  | here {f : Fault} (h : f.number.isNull = false ∨ f.reason? = none) : EndsIn f 0 f
  | behind {f reason last : Fault} {n : ℕ} (hnumber : f.number.isNull)
    (hreason : f.reason? = some reason) (h : EndsIn reason n last) : EndsIn f (n + 1) last

/-- A host that cannot be reached because of a fault. -/
def wrapped (f : Fault) : Fault := .condition .unreachable [.fault f]

variable {f reason last last' : Fault} {n m : ℕ}

/-- Only a host that cannot be reached names a fault as its reason. -/
theorem eq_of_reason (h : f.reason? = some reason) :
    ∃ more, f = .condition .unreachable (.fault reason :: more) := by
  rw [reason?.eq_def] at h
  split at h
  · next named more =>
    obtain rfl := Option.some.inj h
    exact ⟨more, rfl⟩
  · cases h

/-- A fault that names another one as its reason has no number. -/
theorem number_of_reason (h : f.reason? = some reason) : f.number = .null := by
  obtain ⟨more, rfl⟩ := eq_of_reason h
  rw [number, Failure.systemNumber.eq_def]
  split
  · exact if_neg (by simp [Condition.hasNumber, Condition.isNumbered])
  · rfl

/-- A fault has one chain of reasons only. -/
theorem EndsIn.unique (h : f.EndsIn n last) (h' : f.EndsIn m last') : n = m ∧ last = last' := by
  induction h generalizing m with
  | here h =>
    cases h' with
    | here => exact ⟨rfl, rfl⟩
    | behind hnumber hreason => simp [hnumber, hreason] at h
  | behind hnumber hreason _ ih =>
    cases h' with
    | here h => simp [hnumber, hreason] at h
    | behind _ hreason' h' =>
      rw [hreason, Option.some.injEq] at hreason'
      subst hreason'
      obtain ⟨rfl, rfl⟩ := ih h'
      exact ⟨rfl, rfl⟩

/-- Every fault has a chain of reasons, since a reason is a part of the fault. -/
theorem exists_endsIn (f : Fault) : ∃ n last, f.EndsIn n last := by
  cases hreason : f.reason? with
  | none => exact ⟨0, f, .here (.inr hreason)⟩
  | some reason =>
    have hpart : sizeOf reason < sizeOf f := by
      obtain ⟨more, rfl⟩ := eq_of_reason hreason
      simp
      omega
    obtain ⟨n, last, h⟩ := exists_endsIn reason
    exact ⟨n + 1, last, .behind (by rw [number_of_reason hreason]; rfl) hreason h⟩
termination_by sizeOf f

/-- A fault that is wrapped has a chain that is longer by the wrappers. -/
theorem EndsIn.iterate (h : f.EndsIn n last) (k : ℕ) : (wrapped^[k] f).EndsIn (n + k) last := by
  induction k with
  | zero => exact h
  | succ k ih =>
    rw [Function.iterate_succ_apply']
    exact .behind rfl rfl ih

/-- Every fault has a label. -/
theorem label_ne_empty (f : Fault) : f.label ≠ "" := by
  cases f with
  | condition c args => cases c <;> simp [label, Condition.label]
  | misuse m => cases m <;> simp [label, Misuse.label]
  | problem kind => cases kind <;> simp [label, ProblemKind.label]
  | _ => simp [label, Condition.label]

end Fault

namespace Failure

variable {f reason last : Fault} {n : ℕ}

/-- A wrapper tells the code of its reason, or the label if the code is empty. -/
theorem codeOf_of_reason (h : f.reason? = some reason) : codeOf f =
    (codeOf reason).map fun code => if code.isEmpty then reason.label else code := by
  obtain ⟨more, rfl⟩ := Fault.eq_of_reason h
  rw [codeOf]
  cases codeOf reason <;> rfl

/-- A fault that names no other one as its reason tells its number or its label. -/
theorem codeOf_of_no_reason (h : f.reason? = none) :
    codeOf f = if f.number.isNull then .ok f.label else f.number.display := by
  rw [codeOf.eq_def]
  split
  · cases h
  · rfl
  · next hother =>
    cases f with
    | condition c args => exact absurd rfl (hother c args)
    | _ => rfl

/-- What the last fault of a chain tells behind so many others. -/
def toldBy (n : ℕ) (last : Fault) : Except Fault String :=
  if last.number.isNull then .ok last.label
  else last.number.display.map fun text => if text = "" ∧ n ≠ 0 then last.label else text

/-- A wrapper makes of what the last fault tells what it tells behind one fault more. Only where its
own reason is the last fault can the code have been empty. -/
theorem toldBy_succ (h : reason.EndsIn n last) :
    (toldBy n last).map (fun code => if code.isEmpty then reason.label else code) =
      toldBy (n + 1) last := by
  rw [toldBy, toldBy]
  by_cases hnull : last.number.isNull
  · rw [if_pos hnull, if_pos hnull, Except.map, if_neg (by simpa using last.label_ne_empty)]
  rw [if_neg hnull, if_neg hnull]
  cases last.number.display with
  | error e => rfl
  | ok text =>
    refine congrArg Except.ok ?_
    by_cases htext : text = ""
    · cases h with
      | here => simp [htext]
      | behind => simp [htext, last.label_ne_empty]
    · simp [htext]

/-- An empty code is told only by a number with an empty text that nothing wraps. -/
theorem toldBy_eq_empty :
    toldBy n last = .ok "" ↔ n = 0 ∧ ¬ last.number.isNull ∧ last.number.display = .ok "" := by
  rw [toldBy]
  by_cases hnull : last.number.isNull
  · simp [hnull, last.label_ne_empty]
  rw [if_neg hnull]
  cases last.number.display with
  | error e => simp [Except.map]
  | ok text =>
    by_cases htext : text = "" ∧ n ≠ 0
    · simp [Except.map, htext, last.label_ne_empty]
    · simp only [Except.map, if_neg htext, Except.ok.injEq]
      exact ⟨fun h => ⟨by simpa [h] using htext, hnull, h⟩, fun h => h.2.2⟩

/-- The last fault of a chain tells the code. -/
theorem codeOf_of_endsIn (h : f.EndsIn n last) : codeOf f = toldBy n last := by
  induction h with
  | @here f h =>
    have hnone : f.reason? = none := by
      rcases h with h | h
      · refine Option.eq_none_iff_forall_ne_some.mpr fun reason hreason => ?_
        rw [Fault.number_of_reason hreason] at h
        cases h
      · exact h
    rw [codeOf_of_no_reason hnone, toldBy]
    refine congrArg _ ?_
    cases f.number.display with
    | error e => rfl
    | ok text => simp [Except.map]
  | behind hnumber hreason h ih => rw [codeOf_of_reason hreason, ih, toldBy_succ h]

/-- The code of a cause is told by the last fault of its chain of reasons, the first that has a
number or names no fault as its reason. It is the text of its number if that is not empty; its label
if it has no number, or if the text is empty and the fault is wrapped; and empty exactly if the
cause itself has a number with an empty text. A number without a text has no code either. Wrapping a
fault again does not change its code. -/
theorem causeCode_tells_last (f : Fault) :
    ∃ n last, f.EndsIn n last ∧ (∀ m other, f.EndsIn m other → m = n ∧ other = last) ∧
      (last.number.isNull → causeCode (some f) = .ok last.label) ∧
      (¬ last.number.isNull → ∀ text, last.number.display = .ok text →
        (text ≠ "" → causeCode (some f) = .ok text) ∧
        (text = "" → n ≠ 0 → causeCode (some f) = .ok last.label)) ∧
      (¬ last.number.isNull → ∀ e, last.number.display = .error e →
        causeCode (some f) = .error e) ∧
      (causeCode (some f) = .ok "" ↔
        n = 0 ∧ ¬ f.number.isNull ∧ f.number.display = .ok "") ∧
      ∀ k, causeCode (some (Fault.wrapped^[k + 1] f)) = causeCode (some f.wrapped) := by
  obtain ⟨n, last, h⟩ := f.exists_endsIn
  have hcode : causeCode (some f) = toldBy n last := codeOf_of_endsIn h
  refine ⟨n, last, h, fun m other hother => ?_, fun hnull => ?_, fun hnumber text htext => ?_,
    fun hnumber e he => ?_, ?_, fun k => ?_⟩
  · exact hother.unique h
  · rw [hcode, toldBy, if_pos hnull]
  · rw [hcode, toldBy, if_neg hnumber, htext]
    exact ⟨fun hne => congrArg Except.ok (if_neg fun hempty => hne hempty.1),
      fun hempty hwrapped => congrArg Except.ok (if_pos ⟨hempty, hwrapped⟩)⟩
  · rw [hcode, toldBy, if_neg hnumber, he]
    rfl
  · rw [hcode, toldBy_eq_empty]
    refine and_congr_right fun hn => ?_
    subst hn
    cases h
    exact Iff.rfl
  · have hwrapped : causeCode (some f.wrapped) = toldBy (n + 1) last :=
      codeOf_of_endsIn (h.iterate 1)
    have hagain : causeCode (some (Fault.wrapped^[k + 1] f)) = toldBy (n + (k + 1)) last :=
      codeOf_of_endsIn (h.iterate (k + 1))
    rw [hwrapped, hagain, toldBy, toldBy]
    simp

example : causeCode (some (Fault.condition .connectionRefused
    [.int 111, .text "refused"]).wrapped.wrapped) = .ok "111" := rfl

end Failure

end ContentGateway
