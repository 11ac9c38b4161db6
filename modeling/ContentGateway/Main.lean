import ContentGateway.Command.Program

/-!
# Starting the program

The outermost layer: it collects what the program is started with, runs it, and shows what the run
printed. No network is reached from here; every request finds the tape at its end.
-/

namespace ContentGateway

/-- The environment variables that settings come from. -/
def settingVariables : List String :=
  ["SQUIDEX_API_BASE_URL", "SQUIDEX_TIMEOUT", "SQUIDEX_RETRIES", "SQUIDEX_RETRY_DELAY"]

/-- The setting variables that are set. -/
def readEnvironment : IO Environment := do
  let values ← settingVariables.mapM fun name => do
    return (← IO.getEnv name).map fun value => (name, value)
  return values.filterMap id

/-- The exit code of an ending; a fault that is not reported ends with code one. -/
def Command.Ending.code : Command.Ending → UInt32
  | .exit code => UInt32.ofNat code
  | .raised _ => 1

/-- Whether some argument may ask for the standard input: it ends in a dash. -/
def mayReadInput (arguments : List String) : Bool :=
  arguments.any fun s => s.toList.getLast? = some '-'

def readInvocation (arguments : List String) : IO Command.Invocation := do
  let environment ← readEnvironment
  let input ← if mayReadInput arguments then (← IO.getStdin).readToEnd else pure ""
  return ⟨arguments, environment, input, ← (← IO.getStdout).isTty⟩

def runProgram (arguments : List String) : IO UInt32 := do
  let invocation ← readInvocation arguments
  let run := Command.run invocation []
  IO.print (Command.standardOutput run.events)
  IO.eprint (Command.standardError (Command.isVerbose invocation) run.events)
  match run.result with
  | .ok ending => return ending.code
  | .error _ => return 1

end ContentGateway

def main (arguments : List String) : IO UInt32 := ContentGateway.runProgram arguments
