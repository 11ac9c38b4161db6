import ContentGateway.Command.Grammar

/-!
# What was asked for

The arguments of the program, read level by level: the program's own options, the command, and for
`content` the verb. What fits nowhere on any level is reported by the program itself, once every
level was read without a mistake of its own.
-/

namespace ContentGateway.Command

/-- What the program is asked to do. -/
inductive Wish where
  /-- To show a help text. -/
  | help (text : String)
  /-- To show what a query compiles to. -/
  | query (arguments : Arguments)
  /-- To perform an operation on contents. -/
  | content (verb : Verb) (arguments : Arguments)

/-- What was asked for, with the program's own options. -/
structure Asked where
  own : Arguments
  wish : Wish

/-- Why no wish came about: a help text was asked for, or a form found a mistake. -/
inductive Refusal where
  | help (text : String)
  | mistake (form : Form) (message : String)

/-- Reads the arguments of a form, keeping the form with what ended it. -/
def Form.readOrRefuse (form : Form) (arguments : List String) : Except Refusal Arguments :=
  match form.read arguments with
  | .ok level => .ok level
  | .error .help => .error (.help form.help)
  | .error (.mistake message) => .error (.mistake form message)

/-- A wish and the arguments that fit nowhere. -/
abbrev Found := Wish × List String

/-- What the arguments of `content` ask for. -/
def contentWish (arguments : List String) : Except Refusal Found := do
  let level ← Grammar.content.readOrRefuse arguments
  match level.command with
  | none => return (.help Grammar.content.help, level.extras)
  | some (word, rest) =>
    match Verb.ofWord? word with
    | none => return (.help Grammar.content.help, level.extras)
    | some verb =>
      let inner ← (Grammar.verb verb).readOrRefuse rest
      return (.content verb inner, level.extras ++ inner.extras)

/-- What a command with its arguments asks for. -/
def commandWish (command : Option (String × List String)) : Except Refusal Found := do
  match command with
  | none => return (.help Grammar.program.help, [])
  | some (word, rest) =>
    if word = "query" then
      let inner ← Grammar.query.readOrRefuse rest
      return (.query inner, inner.extras)
    else contentWish rest

/-- What the arguments of the program ask for. -/
def readArguments (arguments : List String) : Except Refusal Asked := do
  let own ← Grammar.program.readOrRefuse arguments
  let (wish, left) ← commandWish own.command
  let extras := own.extras ++ left
  if extras.isEmpty then return ⟨own, wish⟩
  throw (.mistake Grammar.program ("unrecognized arguments: " ++ " ".intercalate extras))

end ContentGateway.Command
