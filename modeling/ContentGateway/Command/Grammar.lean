import ContentGateway.Address.Path
import ContentGateway.Command.Form
import ContentGateway.Command.Help
import ContentGateway.Query.Clause

/-!
# What can be typed

The forms of the program: its own options and two commands, of which `query` compiles a query and
`content` has a command for each operation on contents. Filters are flags of `query` and of
`content list` alike, one flag for each operator and one for a raw expression.
-/

namespace ContentGateway.Command

/-- What a filter flag adds to a filter. -/
inductive FilterFlag where
  | clause (operator : Operator)
  | raw
  deriving DecidableEq

namespace FilterFlag

def all : List FilterFlag := Operator.known.map .clause ++ [.raw]

def name : FilterFlag → String
  | .clause operator => "--" ++ operator.word
  | .raw => "--filter"

def ofName? (s : String) : Option FilterFlag := all.find? fun flag => flag.name = s

end FilterFlag

/-- What the program can be asked to do. -/
inductive Verb where
  | list
  | get
  | create
  | update
  | delete
  | change (action : StatusAction)
  deriving DecidableEq

namespace Verb

def all : List Verb := [.list, .get, .create, .update, .delete] ++ StatusAction.all.map .change

def word : Verb → String
  | .list => "list"
  | .get => "get"
  | .create => "create"
  | .update => "update"
  | .delete => "delete"
  | .change action => action.word

def ofWord? (w : String) : Option Verb := all.find? fun verb => verb.word = w

end Verb

namespace Grammar

/-- The option that every form has. -/
def helpOption : Opt := ⟨["-h", "--help"], .help⟩

/-- The options of a query. -/
def queryOptions : List Opt :=
  FilterFlag.all.map (fun flag => ⟨[flag.name], .text⟩) ++
    [⟨["--orderby"], .text⟩, ⟨["--top"], .wholeNumber⟩, ⟨["--skip"], .wholeNumber⟩,
      ⟨["--search"], .text⟩]

def schema : Operand := .named "schema"

def contentId : Operand := .named "content_id"

def dataOption : Opt := ⟨["--data", "-d"], .text⟩

def program : Form where
  program := "squidex"
  options := [helpOption, ⟨["--base-url"], .text⟩, ⟨["--verbose", "-v"], .nothing⟩]
  operands := [.command "command" ["query", "content"]]
  required := []
  help := Help.top

def query : Form where
  program := "squidex query"
  options := helpOption :: queryOptions
  operands := []
  required := []
  help := Help.query

def content : Form where
  program := "squidex content"
  options := [helpOption]
  operands := [.command "subcommand" (Verb.all.map Verb.word)]
  required := []
  help := Help.content

def verbOptions : Verb → List Opt
  | .list => queryOptions
  | .create => [dataOption, ⟨["--publish"], .nothing⟩, ⟨["--id"], .text⟩]
  | .update => [dataOption, ⟨["--patch"], .nothing⟩, ⟨["--expected-version"], .wholeNumber⟩]
  | .delete => [⟨["--permanent"], .nothing⟩]
  | .get | .change _ => []

def verbOperands : Verb → List Operand
  | .list | .create => [schema]
  | _ => [schema, contentId]

/-- The labels that a verb cannot do without. -/
def verbRequired : Verb → List String
  | .list => ["schema"]
  | .create => ["schema", dataOption.label]
  | .update => ["schema", "content_id", dataOption.label]
  | _ => ["schema", "content_id"]

def verbHelp : Verb → String
  | .list => Help.list
  | .get => Help.get
  | .create => Help.create
  | .update => Help.update
  | .delete => Help.delete
  | .change action => Help.action action.word

def verb (v : Verb) : Form where
  program := "squidex content " ++ v.word
  options := helpOption :: verbOptions v
  operands := verbOperands v
  required := verbRequired v
  help := verbHelp v

end Grammar

end ContentGateway.Command
