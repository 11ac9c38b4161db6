import Mathlib
import ContentGateway.Proofs.Steps
import ContentGateway.Proofs.Transport.Target
import ContentGateway.Proofs.Value.Fields
import ContentGateway.Transport.Client

/-!
# Clients that start

With a web address in the environment, and every number there well formed or empty, a client starts
without options. Its addresses begin with the address of the environment, less the slashes at its
end, and its settings add no headers.
-/

namespace ContentGateway

/-- Whether a variable is not set, empty, or read as a number. -/
def Environment.IsNumber {α : Type} (env : Environment) (name : String)
    (read? : String → Option α) : Prop :=
  ∀ s, env.get? name = some s → s = "" ∨ (read? s).isSome

/-- An environment with a web address that has no question mark, and with no malformed number. -/
structure Environment.IsReady (env : Environment) (address : String) : Prop where
  given : env.get? "SQUIDEX_API_BASE_URL" = some address
  isWhole : Base.isWhole address
  noQuery : '?' ∉ address.toList
  timeout : env.IsNumber "SQUIDEX_TIMEOUT" Decimal.readBinary64?
  retries : env.IsNumber "SQUIDEX_RETRIES" Decimal.readInt?
  retryDelay : env.IsNumber "SQUIDEX_RETRY_DELAY" Decimal.readBinary64?

namespace Settings

variable {env : Environment}

/-- A variable that is not malformed gives a number, or null. -/
theorem numberIn_ok {α : Type} {name : String} {read? : String → Option α}
    (h : env.IsNumber name read?) (toValue : α → Value) :
    ∃ v, numberIn env name (fun s => (read? s).map toValue) = .ok v := by
  rw [numberIn]
  cases hs : env.get? name with
  | none => exact ⟨.null, rfl⟩
  | some s =>
    dsimp only
    split
    · exact ⟨.null, rfl⟩
    · next hempty =>
      obtain ⟨a, ha⟩ := Option.isSome_iff_exists.mp
        ((h s hs).resolve_left fun hs => hempty (hs ▸ rfl))
      exact ⟨toValue a, by rw [ha]; rfl⟩

/-- Settings other than the base address and the headers leave these as they are. -/
theorem foldlM_put {fields : Fields}
    (h : ∀ field ∈ fields, field.1 ∈ ["timeout", "retries", "retry_delay"]) (s : Settings) :
    ∃ s', fields.foldlM (fun settings field => settings.put field.1 field.2) s = .ok s' ∧
      s'.baseAddress = s.baseAddress ∧ s'.headers = s.headers := by
  induction fields generalizing s with
  | nil => exact ⟨s, rfl, rfl, rfl⟩
  | cons field fields ih =>
    obtain ⟨hname, hfields⟩ := List.forall_mem_cons.mp h
    obtain ⟨s', hput, hbase, hheaders⟩ : ∃ s', s.put field.1 field.2 = .ok s' ∧
        s'.baseAddress = s.baseAddress ∧ s'.headers = s.headers := by
      simp only [List.mem_cons, List.not_mem_nil, or_false] at hname
      rw [put]
      rcases hname with hname | hname | hname <;> rw [hname] <;> exact ⟨_, rfl, rfl, rfl⟩
    obtain ⟨s'', hfold, hbase', hheaders'⟩ := ih hfields s'
    refine ⟨s'', ?_, hbase'.trans hbase, hheaders'.trans hheaders⟩
    rw [List.foldlM_cons, hput]
    exact hfold

/-- The settings of an environment that is ready have its address and no headers. -/
theorem ofEnvironment_ok {address : String} (h : env.IsReady address) {overrides : Fields}
    (hoverrides : ∀ field ∈ overrides, field.1 ≠ reservedName ∧ field.2.isNull) :
    ∃ s, ofEnvironment env overrides = .ok s ∧ s.baseAddress = .text address ∧
      s.headers = .dict [] := by
  have hreserved : (Fields.find? reservedName overrides).isSome = false := by
    rw [Fields.find?_eq_none fun field hfield => (hoverrides field hfield).1]
    rfl
  have hnone : overrides.filter (fun field => !field.2.isNull) = [] := by
    rw [List.filter_eq_nil_iff]
    intro field hfield
    simp [(hoverrides field hfield).2]
  obtain ⟨timeout, htimeout⟩ := numberIn_ok h.timeout Value.float
  obtain ⟨retries, hretries⟩ := numberIn_ok h.retries Value.int
  obtain ⟨retryDelay, hretryDelay⟩ := numberIn_ok h.retryDelay Value.float
  obtain ⟨numbers, hnumbers⟩ : ∃ numbers : Fields,
      numbers = ([("timeout", timeout), ("retries", retries), ("retry_delay", retryDelay)].filter
        fun field => !field.2.isNull) := ⟨_, rfl⟩
  have hnames : ∀ field ∈ numbers, field.1 ∈ ["timeout", "retries", "retry_delay"] := by
    intro field hfield
    rw [hnumbers] at hfield
    have hmem := (List.mem_filter.mp hfield).1
    simp only [List.mem_cons, List.not_mem_nil, or_false] at hmem
    rcases hmem with rfl | rfl | rfl <;> simp
  obtain ⟨s, hfold, hbase, hheaders⟩ :=
    foldlM_put hnames { standard .null with baseAddress := .text address }
  have htruthy : (Value.text address).truthy := by
    have hne : address ≠ "" := by
      rintro rfl
      exact absurd h.isWhole (by simp [Base.isWhole])
    simpa [Value.truthy] using hne
  refine ⟨s, ?_, hbase, hheaders⟩
  -- the address is the first field that is there, and only numbers come behind it
  have hfields : (Fields.putAll [("api_base_url", .text address), ("timeout", timeout),
      ("retries", retries), ("retry_delay", retryDelay)] []).filter
        (fun field => !field.2.isNull) = ("api_base_url", .text address) :: numbers := by
    rw [hnumbers]
    rfl
  have hpresent : (Fields.get (("api_base_url", .text address) :: numbers) "api_base_url").truthy :=
    htruthy
  rw [ofEnvironment, if_neg (by simp [hreserved])]
  simp only [fractionIn, wholeIn, htimeout, hretries, hretryDelay, h.given, hnone, bind,
    Except.bind, Option.map_some, Option.getD_some, hfields]
  rw [if_neg (by simp [hpresent]), List.foldlM_cons]
  exact hfold

end Settings

/-- A client starts in an environment that is ready, whatever options are null. -/
theorem Client.start_ok {env : Environment} {address : String} (h : env.IsReady address) :
    ∃ client, Client.start env [("api_base_url", .null)] = .ok client ∧
      client.base = .ofText address ∧ client.settings.headers = .dict [] := by
  have hnull : ∀ field ∈ ([("api_base_url", .null)] : Fields),
      field.1 ≠ Settings.reservedName ∧ field.2.isNull := by
    simp [Settings.reservedName, Value.isNull]
  obtain ⟨settings, hsettings, hbase, hheaders⟩ := Settings.ofEnvironment_ok h hnull
  refine ⟨⟨settings, .ofText address, .pause⟩, ?_, rfl, hheaders⟩
  have hoverrides : ([("api_base_url", Value.null)] : Fields).filter
      (fun option => settingOptions.contains option.1) = [("api_base_url", .null)] := rfl
  rw [start, if_neg (by decide), if_neg (by decide)]
  simp only [hoverrides, hsettings, bind, Except.bind]
  rw [withWaiting, hbase]
  rfl

end ContentGateway
