import ContentGateway.Command.Filter
import ContentGateway.Command.Table
import ContentGateway.Command.Wish
import ContentGateway.Content.Walk

/-!
# The program

The program runs on what it is started with: arguments, environment, standard input, and whether a
person watches at a terminal. It prints JSON, on one line, or over several at a terminal; only
listings are tables there. A listing without a limit is cut short at a terminal and walked to its
end otherwise.

Problems with the input and classified failures are printed as JSON too and end the program with
code one. A mistake in the arguments goes to the standard error with code two. Any other fault ends
the program as it is.

Nothing is printed before the whole result is there, except that a table is printed line by line.
-/

namespace ContentGateway.Command

/-- What the program is started with. -/
structure Invocation where
  arguments : List String
  environment : Environment
  input : String
  terminal : Bool

/-- How the program ends. -/
inductive Ending where
  | exit (code : Nat)
  | raised (f : Fault)

/-! ## Printing -/

/-- The layout of what is printed. -/
def layoutFor (terminal : Bool) : Json.Layout := if terminal then .indented else .oneLine

def printLine (s : String) : Job Unit := Job.emit (.printed (s ++ "\n"))

def printValue (terminal : Bool) (v : Value) : Job Unit := do
  printLine (← Json.write (layoutFor terminal) .lenient v)

def printLines : List String → Job Unit
  | [] => Job.done ()
  | line :: rest => do
    printLine line
    printLines rest

/-- Prints a table, as far as it goes. -/
def printTable (headers : List String) (widths : List Int) (rows : List Value) : Job Unit := do
  let (lines, fault) := Table.lines headers widths rows
  printLines lines
  match fault with
  | none => return ()
  | some f => Job.fail f

/-! ## Listings -/

/-- The contents that a person sees where no limit is given. -/
def humanLimit : Int := 20

/-- The cells of a content in a table. -/
def contentRow (c : Content) : Except Fault Value := do
  let version ← c.version.display
  return .list [c.id, c.status.orElse (.text ""), .text version, c.lastModified.orElse (.text "")]

def contentRows (items : List Content) : Except Fault (List Value) := items.mapM contentRow

def contentHeaders : List String := ["ID", "Status", "Version", "Last Modified"]

def contentWidths : List Int := [36, 12, 8, 28]

/-- Shows a page at a terminal. -/
def showPage (page : Page) : Job Unit := do
  if page.items.isEmpty then printLine "No content found."
  else
    printTable contentHeaders contentWidths (← contentRows page.items)
    let count := page.items.length
    if ← Value.lessThan (.int count) page.total then
      let total ← page.total.display
      printLine ("\nShowing " ++ toString count ++ " of " ++ total ++ " items")

/-- What a listing prints: contents and how many there are. -/
def listing (items : List Content) (total : Value) : Value :=
  .dict [("items", .list (items.map Content.summary)), ("total", total)]

def runList (client : Client) (terminal : Bool) (arguments : Arguments) : Job Unit := do
  let query ← queryOf arguments
  let schema := arguments.value "schema"
  if terminal then
    let query := if query.top.isNull then { query with top := .int humanLimit } else query
    showPage (← client.list schema (.query query))
  else if query.top.isNull then
    let items ← client.listAll schema (.query query)
    printValue terminal (listing items (.int items.length))
  else
    let page ← client.list schema (.query query)
    printValue terminal (listing page.items page.total)

/-! ## Single contents -/

/-- What an operation prints: the identifier, one more field, and that it is done. -/
def notice (id : Value) (name : String) (v : Value) (message : String) : Value :=
  .dict [("id", id), (name, v), ("message", .text message)]

def runGet (client : Client) (terminal : Bool) (arguments : Arguments) : Job Unit := do
  let c ← client.getContent (arguments.value "schema") (arguments.value "content_id")
  printValue terminal c.toValue

def runCreate (client : Client) (terminal : Bool) (input : String) (arguments : Arguments) :
    Job Unit := do
  let data ← readData (arguments.value "--data/-d") "--data" input
  let options : CreateOptions := ⟨.bool (arguments.has "--publish"), arguments.value "--id"⟩
  let message := "Content created"
  match ← client.create (arguments.value "schema") data options with
  | some c => printValue terminal (notice c.id "status" c.status message)
  | none => printValue terminal (notice options.id "status" .null message)

def runUpdate (client : Client) (terminal : Bool) (input : String) (arguments : Arguments) :
    Job Unit := do
  let data ← readData (arguments.value "--data/-d") "--data" input
  let id := arguments.value "content_id"
  let options : UpdateOptions :=
    ⟨.bool (arguments.has "--patch"), arguments.value "--expected-version"⟩
  let message := "Content updated"
  match ← client.update (arguments.value "schema") id data options with
  | some c => printValue terminal (notice c.id "version" c.version message)
  | none => printValue terminal (notice id "version" .null message)

def runDelete (client : Client) (terminal : Bool) (arguments : Arguments) : Job Unit := do
  let id := arguments.value "content_id"
  client.deleteContent (arguments.value "schema") id ⟨.bool (arguments.has "--permanent")⟩
  let shown ← id.display
  printValue terminal
    (.dict [("success", .bool true), ("message", .text ("Content " ++ shown ++ " deleted"))])

def runAction (client : Client) (terminal : Bool) (action : StatusAction) (arguments : Arguments) :
    Job Unit := do
  let id := arguments.value "content_id"
  let message := "Content " ++ action.word ++ " done"
  match ← client.changeStatus (arguments.value "schema") id action with
  | some c => printValue terminal (notice c.id "status" c.status message)
  | none => printValue terminal (notice id "status" .null message)

def runVerb (client : Client) (invocation : Invocation) (verb : Verb) (arguments : Arguments) :
    Job Unit :=
  match verb with
  | .list => runList client invocation.terminal arguments
  | .get => runGet client invocation.terminal arguments
  | .create => runCreate client invocation.terminal invocation.input arguments
  | .update => runUpdate client invocation.terminal invocation.input arguments
  | .delete => runDelete client invocation.terminal arguments
  | .change action => runAction client invocation.terminal action arguments

/-! ## The whole -/

/-- Shows what a query compiles to. -/
def runQuery (terminal : Bool) (arguments : Arguments) : Job Unit := do
  let query ← queryOf arguments
  let parameters ← query.compile
  printValue terminal (.dict parameters)

/-- The client that the environment and the program's own options ask for. -/
def openClient (env : Environment) (own : Arguments) : Except Fault Client :=
  Client.start env [("api_base_url", own.value "--base-url")]

/-- Performs a wish. -/
def fulfil (invocation : Invocation) (own : Arguments) : Wish → Job Unit
  | .help text => Job.emit (.printed text)
  | .query arguments => runQuery invocation.terminal arguments
  | .content verb arguments => do
    let client ← openClient invocation.environment own
    runVerb client invocation verb arguments

/-- Ends after a job: well, with a report of its fault, or with the fault itself. -/
def concluding (terminal : Bool) (t : Job Unit) : Job Ending := do
  match ← t.attempt with
  | .ok () => return .exit 0
  | .error f =>
    match Failure.report? f with
    | none => return .raised f
    | some report =>
      match ← (printValue terminal (.dict report)).attempt with
      | .ok () => return .exit 1
      | .error g => return .raised g

/-- Runs the program. -/
def run (invocation : Invocation) : Job Ending := do
  match readArguments invocation.arguments with
  | .ok asked => concluding invocation.terminal (fulfil invocation asked.own asked.wish)
  | .error (.help text) => do
    Job.emit (.printed text)
    return .exit 0
  | .error (.mistake form message) => do
    Job.emit (.complained (form.usage ++ form.program ++ ": error: " ++ message ++ "\n"))
    return .exit 2

/-! ## What is seen -/

/-- Whether notices are shown in full. -/
def isVerbose (invocation : Invocation) : Bool :=
  match readArguments invocation.arguments with
  | .ok asked => asked.own.has "--verbose/-v"
  | .error _ => false

/-- The name under which the transport gives its notices. -/
def noticeSource : String := "squidex_cli.core.client"

/-- A notice on the standard error: in full, or only the text of a warning. -/
def noticeText (verbose : Bool) (level : Level) (text : String) : String :=
  if verbose then level.label ++ " " ++ noticeSource ++ ": " ++ text ++ "\n"
  else
    match level with
    | .debug => ""
    | .warning => text ++ "\n"

/-- What an event shows on the standard output. -/
def outputText : Event → String
  | .printed text => text
  | _ => ""

/-- What an event shows on the standard error. -/
def errorText (verbose : Bool) : Event → String
  | .complained text => text
  | .notice level text => noticeText verbose level text
  | _ => ""

def standardOutput (events : List Event) : String := String.join (events.map outputText)

def standardError (verbose : Bool) (events : List Event) : String :=
  String.join (events.map (errorText verbose))

end ContentGateway.Command
