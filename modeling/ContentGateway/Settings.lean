import ContentGateway.Decimal.Reading
import ContentGateway.Retry

/-!
# Settings

The settings of a client come from environment variables, and from overrides that win over them. A
variable that is empty counts as not set, and an override that is null does not count. Numbers in
the environment are read in the order timeout, retries, delay, each before any override is looked
at; after that a base address must be there.
-/

namespace ContentGateway

/-- The settings of a client. -/
structure Settings where
  baseAddress : Value
  timeout : Value
  retries : Value
  retryDelay : Value
  headers : Value

/-- Environment variables by name. -/
abbrev Environment := List (String × String)

def Environment.get? (env : Environment) (name : String) : Option String :=
  (env.find? fun entry => entry.1 = name).map Prod.snd

namespace Settings

/-- The settings for a base address with everything else as usual. -/
def standard (baseAddress : Value) : Settings :=
  ⟨baseAddress, .int 30, RetryPolicy.standard.retries, RetryPolicy.standard.baseDelay, .dict []⟩

def policy (s : Settings) : RetryPolicy := ⟨s.retries, s.retryDelay⟩

/-- Replaces a setting by its name. -/
def put (s : Settings) (name : String) (v : Value) : Except Fault Settings :=
  if name = "api_base_url" then .ok { s with baseAddress := v }
  else if name = "timeout" then .ok { s with timeout := v }
  else if name = "retries" then .ok { s with retries := v }
  else if name = "retry_delay" then .ok { s with retryDelay := v }
  else if name = "headers" then .ok { s with headers := v }
  else .error (.misuse .wrongType)

/-- The number in a variable, null if it is not set. -/
def numberIn (env : Environment) (name : String) (read? : String → Option Value) :
    Except Fault Value :=
  match env.get? name with
  | none => .ok .null
  | some s =>
    if s.isEmpty then .ok .null
    else
      match read? s with
      | some v => .ok v
      | none =>
        .error (.problem .configuration ("Invalid value for " ++ name ++ ": " ++ Text.quoted s)
          .null)

/-- A whole number in a variable. -/
def wholeIn (env : Environment) (name : String) : Except Fault Value :=
  numberIn env name fun s => (Decimal.readInt? s).map Value.int

/-- A binary64 number in a variable. -/
def fractionIn (env : Environment) (name : String) : Except Fault Value :=
  numberIn env name fun s => (Decimal.readBinary64? s).map Value.float

/-- The problem that no base address is set. -/
def noBaseAddress : Fault :=
  .problem .configuration "SQUIDEX_API_BASE_URL environment variable not set" .null

/-- The name that no override can have: it stands for what the settings are made into. -/
def reservedName : String := "cls"

/-- The settings that an environment and overrides give. -/
def ofEnvironment (env : Environment) (overrides : Fields) : Except Fault Settings := do
  if (Fields.find? reservedName overrides).isSome then throw (.misuse .wrongType)
  let baseAddress := ((env.get? "SQUIDEX_API_BASE_URL").map Value.text).getD .null
  let timeout ← fractionIn env "SQUIDEX_TIMEOUT"
  let retries ← wholeIn env "SQUIDEX_RETRIES"
  let retryDelay ← fractionIn env "SQUIDEX_RETRY_DELAY"
  let fields := Fields.putAll
    [("api_base_url", baseAddress), ("timeout", timeout), ("retries", retries),
      ("retry_delay", retryDelay)]
    (overrides.filter fun field => !field.2.isNull)
  let given := fields.filter fun field => !field.2.isNull
  if !(Fields.get given "api_base_url").truthy then throw noBaseAddress
  given.foldlM (fun settings field => settings.put field.1 field.2) (standard .null)

end Settings

end ContentGateway
