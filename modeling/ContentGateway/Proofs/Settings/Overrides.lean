import Mathlib
import ContentGateway.Proofs.Steps
import ContentGateway.Proofs.Transport.Started
import ContentGateway.Proofs.Value.Given

/-!
# Overrides and the environment

An override is meant to win over the variable of its setting, so that nothing depends on what the
variable says. The numbers of the environment are read ahead of that, each whether it is overridden
or not, and one that is malformed ends everything. Behind it the override hides its variable: two
environments that differ in overridden variables only give the same settings, or fail alike, exactly
if they have the same to complain about, or nothing.
-/

namespace ContentGateway

namespace Settings

/-- The settings that come from the environment, with their variables. -/
def namedVariables : List (String × String) :=
  [("api_base_url", "SQUIDEX_API_BASE_URL"), ("timeout", "SQUIDEX_TIMEOUT"),
    ("retries", "SQUIDEX_RETRIES"), ("retry_delay", "SQUIDEX_RETRY_DELAY")]

/-- Whether a setting has an override that counts. -/
def IsOverridden (overrides : Fields) (name : String) : Prop :=
  ∃ v, (name, v) ∈ overrides ∧ v.isNull = false

/-- The overrides that count. -/
def counting (overrides : Fields) : Fields := overrides.filter fun field => !field.2.isNull

def numbers (env : Environment) : List (Except Fault Value) :=
  [fractionIn env "SQUIDEX_TIMEOUT", wholeIn env "SQUIDEX_RETRIES",
    fractionIn env "SQUIDEX_RETRY_DELAY"]

/-- The fault of a step that fails. -/
def faultOf? {α : Type} : Except Fault α → Option Fault
  | .error f => some f
  | .ok _ => none

/-- The problem of the first malformed number of an environment. -/
def malformed? (env : Environment) : Option Fault := (numbers env).findSome? faultOf?

/-- The fields that an environment gives, as values. -/
def fieldsOf (baseAddress timeout retries retryDelay : Value) : Fields :=
  [("api_base_url", baseAddress), ("timeout", timeout), ("retries", retries),
    ("retry_delay", retryDelay)]

/-- The value of the base address in an environment. -/
def baseAddressIn (env : Environment) : Value :=
  ((env.get? "SQUIDEX_API_BASE_URL").map Value.text).getD .null

/-- The settings by fields that are settled. -/
def ofFields (fields : Fields) : Except Fault Settings := do
  let given := fields.filter fun field => !field.2.isNull
  if !(Fields.get given "api_base_url").truthy then throw noBaseAddress
  given.foldlM (fun settings field => settings.put field.1 field.2) (standard .null)

end Settings

/-- Whether two environments agree on the variables of all settings that are not overridden. -/
def Environment.AgreesBut (overrides : Fields) (env env' : Environment) : Prop :=
  ∀ entry ∈ Settings.namedVariables, ¬Settings.IsOverridden overrides entry.1 →
    env.get? entry.2 = env'.get? entry.2

namespace Settings

variable {env env' : Environment} {overrides : Fields} {f : Fault}

/-- No two fields that an environment gives have one name. -/
theorem nodup_fieldsOf (baseAddress timeout retries retryDelay : Value) :
    ((fieldsOf baseAddress timeout retries retryDelay).map Prod.fst).Nodup := by
  have hnames : (fieldsOf baseAddress timeout retries retryDelay).map Prod.fst =
      namedVariables.map Prod.fst := rfl
  rw [hnames]
  decide

/-! ## Numbers come first -/

/-- The settings are made of the numbers, the base address and the overrides, in this order. -/
theorem ofEnvironment_eq (hreserved : (Fields.find? reservedName overrides).isSome = false) :
    ofEnvironment env overrides = (do
      let timeout ← fractionIn env "SQUIDEX_TIMEOUT"
      let retries ← wholeIn env "SQUIDEX_RETRIES"
      let retryDelay ← fractionIn env "SQUIDEX_RETRY_DELAY"
      ofFields ((fieldsOf (baseAddressIn env) timeout retries retryDelay).putAll
        (counting overrides))) := by
  rw [ofEnvironment, if_neg (by simp [hreserved])]
  rfl

/-- A malformed number ends it, whatever is overridden. -/
theorem ofEnvironment_of_malformed (hmalformed : malformed? env = some f)
    (hreserved : (Fields.find? reservedName overrides).isSome = false) :
    ofEnvironment env overrides = .error f := by
  rw [ofEnvironment_eq hreserved]
  rw [malformed?, numbers] at hmalformed
  -- the first step that fails is the one that is found
  cases htimeout : fractionIn env "SQUIDEX_TIMEOUT" with
  | error g =>
    rw [htimeout, List.findSome?_cons] at hmalformed
    cases hmalformed
    rfl
  | ok timeout =>
  cases hretries : wholeIn env "SQUIDEX_RETRIES" with
  | error g =>
    rw [htimeout, hretries] at hmalformed
    cases hmalformed
    rfl
  | ok retries =>
  cases hdelay : fractionIn env "SQUIDEX_RETRY_DELAY" with
  | error g =>
    rw [htimeout, hretries, hdelay] at hmalformed
    cases hmalformed
    rfl
  | ok retryDelay =>
    rw [htimeout, hretries, hdelay] at hmalformed
    cases hmalformed

/-- Where no number is malformed, the overrides are set in place of what is in the environment. -/
theorem ofEnvironment_of_wellFormed (hmalformed : malformed? env = none)
    (hreserved : (Fields.find? reservedName overrides).isSome = false) :
    ∃ timeout retries retryDelay, fractionIn env "SQUIDEX_TIMEOUT" = .ok timeout ∧
      wholeIn env "SQUIDEX_RETRIES" = .ok retries ∧
      fractionIn env "SQUIDEX_RETRY_DELAY" = .ok retryDelay ∧
      ofEnvironment env overrides = ofFields ((fieldsOf (baseAddressIn env) timeout retries
        retryDelay).putAll (counting overrides)) := by
  have hok : ∀ step ∈ numbers env, ∃ v, step = .ok v := by
    intro step hstep
    have hnone := List.findSome?_eq_none_iff.mp hmalformed step hstep
    cases step with
    | ok v => exact ⟨v, rfl⟩
    | error g => cases hnone
  obtain ⟨⟨timeout, htimeout⟩, ⟨retries, hretries⟩, ⟨retryDelay, hdelay⟩, -⟩ := by
    simpa only [numbers, List.forall_mem_cons] using hok
  refine ⟨timeout, retries, retryDelay, htimeout, hretries, hdelay, ?_⟩
  rw [ofEnvironment_eq hreserved, htimeout, hretries, hdelay]
  rfl

/-! ## Two kinds of failures -/

/-- The fault of a malformed number says so. -/
def IsComplaint (f : Fault) : Prop :=
  ∃ text, f = .problem .configuration ("Invalid value for " ++ text) .null

/-- A number that cannot be read is complained about. -/
theorem numberIn_error {name : String} {read? : String → Option Value}
    (h : numberIn env name read? = .error f) : IsComplaint f := by
  rw [numberIn] at h
  split at h
  · cases h
  · split at h
    · cases h
    · split at h
      · cases h
      · next s _ _ _ _ =>
        cases h
        exact ⟨name ++ ": " ++ Text.quoted s, by simp only [String.append_assoc]⟩

/-- The problem of a malformed number is a complaint. -/
theorem isComplaint_of_malformed (h : malformed? env = some f) : IsComplaint f := by
  obtain ⟨step, hstep, hfault⟩ := List.exists_of_findSome?_eq_some h
  cases step with
  | ok v => cases hfault
  | error g =>
    cases hfault
    simp only [numbers, List.mem_cons, List.not_mem_nil, or_false] at hstep
    rcases hstep with hstep | hstep | hstep <;> exact numberIn_error hstep.symm

/-- A setting is refused only for the type of its value. -/
theorem put_error {s : Settings} {name : String} {v : Value} (h : s.put name v = .error f) :
    f = .misuse .wrongType := by
  rw [put] at h
  split_ifs at h
  cases h
  rfl

/-- Settings by settled fields fail for want of an address, or by a field that they do not have. -/
theorem ofFields_error {fields : Fields} (h : ofFields fields = .error f) :
    f = noBaseAddress ∨ f = .misuse .wrongType := by
  rw [ofFields] at h
  split at h
  · cases h
    exact .inl rfl
  · right
    generalize fields.filter _ = given at h
    generalize standard .null = s at h
    replace h : given.foldlM (fun settings field => settings.put field.1 field.2) s = .error f := h
    induction given generalizing s with
    | nil => cases h
    | cons field given ih =>
      rw [List.foldlM_cons] at h
      cases hput : s.put field.1 field.2 with
      | error g =>
        rw [hput] at h
        cases h
        exact put_error hput
      | ok s' =>
        rw [hput] at h
        exact ih s' h

/-- A failure of the settled fields is no complaint about a number. -/
theorem ofFields_ne_complaint (hf : IsComplaint f) (fields : Fields) :
    ofFields fields ≠ .error f := by
  obtain ⟨text, rfl⟩ := hf
  intro h
  rcases ofFields_error h with h | h
  · have hmessage : "Invalid value for " ++ text =
        "SQUIDEX_API_BASE_URL environment variable not set" := by
      injection h
    have hhead := congrArg (fun s => s.toList.head?) hmessage
    rw [String.toList_append, String.toList_ofList, String.toList_ofList] at hhead
    cases hhead
  · cases h

/-! ## Overridden variables -/

/-- A setting with an override that counts was given a value last. -/
theorem exists_lastGiven_of_isOverridden {name : String} (h : IsOverridden overrides name) :
    ∃ v, Fields.lastGiven name (counting overrides) = some v := by
  obtain ⟨v, hmem, hv⟩ := h
  exact Fields.exists_lastGiven (List.mem_filter.mpr ⟨hmem, by rw [hv]; rfl⟩)

/-- A number depends on its own variable only. -/
theorem numberIn_congr {name : String} (h : env.get? name = env'.get? name)
    (read? : String → Option Value) : numberIn env name read? = numberIn env' name read? := by
  rw [numberIn, numberIn, h]

/-- Where the numbers of both environments are well formed, overridden variables make no
difference. -/
theorem ofEnvironment_congr (h : env.AgreesBut overrides env') (hmalformed : malformed? env = none)
    (hmalformed' : malformed? env' = none)
    (hreserved : (Fields.find? reservedName overrides).isSome = false) :
    ofEnvironment env overrides = ofEnvironment env' overrides := by
  obtain ⟨timeout, retries, retryDelay, htimeout, hretries, hdelay, hfields⟩ :=
    ofEnvironment_of_wellFormed hmalformed hreserved
  obtain ⟨timeout', retries', retryDelay', htimeout', hretries', hdelay', hfields'⟩ :=
    ofEnvironment_of_wellFormed hmalformed' hreserved
  have hget : ∀ entry ∈ namedVariables, Fields.lastGiven entry.1 (counting overrides) = none →
      env.get? entry.2 = env'.get? entry.2 := by
    intro entry hentry hnone
    refine h entry hentry fun hoverridden => ?_
    obtain ⟨v, hv⟩ := exists_lastGiven_of_isOverridden hoverridden
    rw [hnone] at hv
    cases hv
  simp only [namedVariables, List.forall_mem_cons] at hget
  obtain ⟨haddress, htime, hcount, hwait, -⟩ := hget
  rw [hfields, hfields']
  apply congrArg ofFields
  apply Fields.putAll_congr
  · rfl
  · exact nodup_fieldsOf _ _ _ _
  intro name hnone
  simp only [fieldsOf, Fields.find?]
  split_ifs with hname hname hname hname
  · rw [baseAddressIn, baseAddressIn, haddress (hname ▸ hnone)]
  · have hsame := htimeout.symm.trans ((numberIn_congr (htime (hname ▸ hnone)) _).trans htimeout')
    exact congrArg some (Except.ok.inj hsame)
  · have hsame := hretries.symm.trans ((numberIn_congr (hcount (hname ▸ hnone)) _).trans hretries')
    exact congrArg some (Except.ok.inj hsame)
  · have hsame := hdelay.symm.trans ((numberIn_congr (hwait (hname ▸ hnone)) _).trans hdelay')
    exact congrArg some (Except.ok.inj hsame)
  · rfl

/-- Where the numbers are well formed, nothing is said about one. -/
theorem ofEnvironment_ne_complaint (hmalformed : malformed? env = none)
    (hreserved : (Fields.find? reservedName overrides).isSome = false) (hf : IsComplaint f) :
    ofEnvironment env overrides ≠ .error f := by
  obtain ⟨_, _, _, -, -, -, hfields⟩ := ofEnvironment_of_wellFormed hmalformed hreserved
  rw [hfields]
  exact ofFields_ne_complaint hf _

/-- Environments that agree but for overridden variables give the same, settings or failure, exactly
if they complain about the same malformed number, or about none; or if the overrides cannot be taken
at all. A malformed number ends it, whether its setting is overridden or not. -/
theorem ofEnvironment_eq_iff (h : env.AgreesBut overrides env') :
    (ofEnvironment env overrides = ofEnvironment env' overrides ↔
      (Fields.find? reservedName overrides).isSome ∨ malformed? env = malformed? env') ∧
    ∀ f, malformed? env = some f → (Fields.find? reservedName overrides).isSome ∨
      ofEnvironment env overrides = .error f := by
  cases hreserved : (Fields.find? reservedName overrides).isSome with
  | true =>
    have hmisuse : ∀ env, ofEnvironment env overrides = .error (.misuse .wrongType) := by
      intro env
      rw [ofEnvironment, if_pos hreserved]
      rfl
    exact ⟨iff_of_true ((hmisuse env).trans (hmisuse env').symm) (.inl rfl), fun _ _ => .inl rfl⟩
  | false =>
  simp only [Bool.false_eq_true, false_or]
  refine ⟨?_, fun f hf => ofEnvironment_of_malformed hf hreserved⟩
  cases hmalformed : malformed? env with
  | some f =>
    rw [ofEnvironment_of_malformed hmalformed hreserved]
    cases hmalformed' : malformed? env' with
    | some f' =>
      rw [ofEnvironment_of_malformed hmalformed' hreserved]
      exact ⟨fun hsame => congrArg some (Except.error.inj hsame),
        fun hsame => congrArg Except.error (Option.some.inj hsame)⟩
    | none =>
      have hne := ofEnvironment_ne_complaint hmalformed' hreserved
        (isComplaint_of_malformed hmalformed)
      exact iff_of_false hne.symm (Option.some_ne_none f)
  | none =>
    cases hmalformed' : malformed? env' with
    | some f' =>
      rw [ofEnvironment_of_malformed hmalformed' hreserved]
      have hne := ofEnvironment_ne_complaint hmalformed hreserved
        (isComplaint_of_malformed hmalformed')
      exact iff_of_false hne (Option.some_ne_none f').symm
    | none => exact iff_of_true (ofEnvironment_congr h hmalformed hmalformed' hreserved) rfl

/-- A number of the environment is malformed where its setting is overridden: there are no settings,
and without the variable there are. -/
theorem ofEnvironment_eq_iff_many_retries :
    let overrides : Fields := [("retries", .int 5)]
    let plain : Environment := [("SQUIDEX_API_BASE_URL", "http://local")]
    let spoiled : Environment := ("SQUIDEX_RETRIES", "many") :: plain
    spoiled.AgreesBut overrides plain ∧
      ofEnvironment spoiled overrides ≠ ofEnvironment plain overrides := by
  intro overrides plain spoiled
  have hagrees : spoiled.AgreesBut overrides plain := by
    intro entry hentry hnot
    simp only [namedVariables, List.mem_cons, List.not_mem_nil, or_false] at hentry
    rcases hentry with rfl | rfl | rfl | rfl
    · rfl
    · rfl
    · exact absurd ⟨.int 5, List.mem_singleton_self _, rfl⟩ hnot
    · rfl
  refine ⟨hagrees, fun hsame => ?_⟩
  have hmalformed := (ofEnvironment_eq_iff hagrees).1.mp hsame
  rcases hmalformed with hreserved | hmalformed
  · cases hreserved
  · have hplain : malformed? plain = none := rfl
    have hspoiled : (malformed? spoiled).isSome := rfl
    rw [hmalformed, hplain] at hspoiled
    cases hspoiled

end Settings

end ContentGateway
