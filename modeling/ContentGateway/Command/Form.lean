import ContentGateway.Decimal.Reading
import ContentGateway.Text.Basic
import ContentGateway.Text.Quoted
import ContentGateway.Value

/-!
# Reading arguments

A form says which options and operands a command has. Arguments are read in two passes. The first
tells options from the rest, each argument on its own: an option is known by its name, by a name
before an equals sign, by the beginning of exactly one long name, or by a short name with its value
right behind it. What begins with a dash but is a dash alone, a negative number or holds a blank is
no option, and nothing is behind a divider `--`.

The second pass goes from left to right. An option takes its value from behind its equals sign or
from the next argument; short options without a value may stand in one word. Operands are filled in
order, and an operand that is a command takes everything behind it. What fits nowhere is left over.

A divider is dropped from what an option or a named operand takes. Where nothing else is taken, the
value is an empty list.
-/

namespace ContentGateway.Command

/-- What an option takes, and what it does. -/
inductive Takes where
  /-- Shows the help of the form and ends. -/
  | help
  /-- Takes nothing. -/
  | nothing
  /-- Takes a text. -/
  | text
  /-- Takes a whole number. -/
  | wholeNumber
  deriving DecidableEq

/-- An option with its names, as they are declared. -/
structure Opt where
  names : List String
  takes : Takes

/-- The names of an option as messages show them. -/
def Opt.label (o : Opt) : String := "/".intercalate o.names

/-- What stands without a name of its own. -/
inductive Operand where
  /-- One argument. -/
  | named (label : String)
  /-- One of several commands, with all arguments behind it. -/
  | command (label : String) (choices : List String)

/-- What a command understands. -/
structure Form where
  program : String
  options : List Opt
  operands : List Operand
  /-- The labels that have to be given, in the order of their declaration. -/
  required : List String
  help : String

/-- Why reading arguments ends early. -/
inductive Halt where
  | help
  | mistake (message : String)

/-- What was read for one form. -/
structure Arguments where
  /-- What was given, by label, in order. -/
  given : List (String × Value)
  /-- What fits nowhere, in order. -/
  extras : List String
  /-- The command with the arguments behind it. -/
  command : Option (String × List String)

namespace Arguments

def empty : Arguments := ⟨[], [], none⟩

/-- What was given for a label last. -/
def last? (l : Arguments) (label : String) : Option Value :=
  (l.given.reverse.find? fun entry => entry.1 = label).map Prod.snd

/-- What was given for a label last, null if nothing. -/
def value (l : Arguments) (label : String) : Value := (l.last? label).getD .null

def has (l : Arguments) (label : String) : Bool := (l.last? label).isSome

/-- Puts entries in front. -/
def giving (entries : List (String × Value)) (l : Arguments) : Arguments :=
  { l with given := entries ++ l.given }

/-- Puts an argument that fits nowhere in front. -/
def leaving (s : String) (l : Arguments) : Arguments := { l with extras := s :: l.extras }

end Arguments

/-! ## Telling options from the rest -/

/-- How an argument names an option: the option, the name that counts, and a value behind it. -/
structure Mention where
  option : Opt
  name : String
  explicit : Option String

/-- One argument after the first pass. -/
inductive Token where
  | operand (s : String)
  | divider
  | option (s : String) (mention : Option Mention)

def Token.text : Token → String
  | .operand s => s
  | .divider => "--"
  | .option s _ => s

namespace Form

/-- Every name with its option, in the order of declaration. -/
def names (form : Form) : List (String × Opt) :=
  form.options.flatMap fun o => o.names.map fun name => (name, o)

def find? (form : Form) (name : String) : Option Opt :=
  (form.names.find? fun entry => entry.1 = name).map Prod.snd

/-- The name before the first equals sign and the text behind it. -/
def splitValue (s : String) : Option (String × String) :=
  (Text.splitFirst? '=' s.toList).map fun (name, value) =>
    (String.ofList name, String.ofList value)

/-- The options whose long name begins as the argument does. -/
def longMentions (form : Form) (s : String) : List Mention :=
  let (start, explicit) := match splitValue s with
    | some (name, value) => (name, some value)
    | none => (s, none)
  form.names.filterMap fun (name, o) =>
    if start.toList.isPrefixOf name.toList then some ⟨o, name, explicit⟩ else none

/-- The options whose short name begins the argument, or whose name the argument begins. -/
def shortMentions (form : Form) (s : String) : List Mention :=
  let cs := s.toList
  form.names.filterMap fun (name, o) =>
    if name.toList = cs.take 2 then some ⟨o, name, some (String.ofList (cs.drop 2))⟩
    else if cs.isPrefixOf name.toList then some ⟨o, name, none⟩
    else none

/-- The options that an argument may mean without naming one exactly. -/
def mentions (form : Form) (s : String) : List Mention :=
  if "--".toList.isPrefixOf s.toList then form.longMentions s else form.shortMentions s

/-- Decimal digits and nothing else, at least one of them. -/
def isDigits (cs : List Char) : Bool :=
  !cs.isEmpty && cs.all fun c => (Text.decimalDigit? c).isSome

/-- Whether a text is a negative number: digits behind a dash, with or without a point before the
last of them. A line end behind it does not count. -/
def isNegativeNumber (s : String) : Bool :=
  match s.toList with
  | '-' :: cs =>
    let cs := if cs.getLast? = some '\n' then cs.dropLast else cs
    match Text.splitFirst? '.' cs with
    | none => isDigits cs
    | some (whole, fraction) => (whole.isEmpty || isDigits whole) && isDigits fraction
  | _ => false

/-- An argument that names an option exactly, alone or before an equals sign. -/
def exactMention? (form : Form) (s : String) : Option Mention :=
  match form.find? s with
  | some o => some ⟨o, s, none⟩
  | none =>
    match splitValue s with
    | some (name, value) => (form.find? name).map fun o => ⟨o, name, some value⟩
    | none => none

/-- What an argument before any divider is. -/
def classify (form : Form) (s : String) : Except Halt Token :=
  if s.toList.head? ≠ some '-' || s = "-" then .ok (.operand s)
  else
    match form.exactMention? s with
    | some mention => .ok (.option s (some mention))
    | none =>
      match form.mentions s with
      | [mention] => .ok (.option s (some mention))
      | [] =>
        if isNegativeNumber s || s.toList.contains ' ' then .ok (.operand s)
        else .ok (.option s none)
      | several =>
        .error (.mistake ("ambiguous option: " ++ s ++ " could match " ++
          ", ".intercalate (several.map Mention.name)))

/-- The first pass. -/
def tokens (form : Form) : List String → Except Halt (List Token)
  | [] => .ok []
  | s :: rest =>
    if s = "--" then .ok (.divider :: rest.map .operand)
    else do
      let token ← form.classify s
      return token :: (← tokens form rest)

/-! ## Taking values -/

/-- The message that something is wrong with what a label was given. -/
def mistakeAt (label message : String) : Halt := .mistake ("argument " ++ label ++ ": " ++ message)

/-- What arguments are taken as: the one that is left without a divider, or a list. -/
def taken (arguments : List String) : Value :=
  match arguments.erase "--" with
  | [s] => .text s
  | several => .list (several.map .text)

/-- The value of an option from what it took. -/
def optionValue (o : Opt) (arguments : List String) : Except Halt Value :=
  match o.takes, taken arguments with
  | .help, _ => .error .help
  | .nothing, _ => .ok (.bool true)
  | .wholeNumber, .text s =>
    match Decimal.readInt? s with
    | some i => .ok (.int i)
    | none => .error (mistakeAt o.label ("invalid int value: " ++ Text.quoted s))
  | _, v => .ok v

/-- Whether an option takes a value. -/
def takesValue (o : Opt) : Bool := o.takes = .text || o.takes = .wholeNumber

/-- The message that a value stands behind an option that takes none. -/
def ignoredValue (o : Opt) (value : String) : Halt :=
  mistakeAt o.label ("ignored explicit argument " ++ Text.quoted value)

/-- The options in one word. Behind a short option without a value the next letter names another.
Gives the options that are settled, each with what it took, and the option that still looks for its
value in the next argument, if there is one. The characters behind the name run out, so there are
at most `steps` options. -/
def unfold (form : Form) : (steps : Nat) → Opt → String → Option String →
    Except Halt (List (Opt × List String) × Option Opt)
  | _, o, _, none => .ok ([], some o)
  | 0, o, _, some value => .error (ignoredValue o value)
  | steps + 1, o, name, some value =>
    if takesValue o then .ok ([(o, [value])], none)
    else
      match value.toList with
      | [] => .error (ignoredValue o value)
      | c :: rest =>
        if "--".toList.isPrefixOf name.toList then .error (ignoredValue o value)
        else
          let next := String.ofList ['-', c]
          match form.find? next with
          | none => .error (ignoredValue o value)
          | some o' => do
            let explicit := if rest.isEmpty then none else some (String.ofList rest)
            let (settled, pending) ← unfold form steps o' next explicit
            return ((o, []) :: settled, pending)

/-- Performs options one after the other. -/
def settle : List (Opt × List String) → Except Halt (List (String × Value))
  | [] => .ok []
  | (o, arguments) :: rest => do
    let v ← optionValue o arguments
    return (o.label, v) :: (← settle rest)

/-- The options that an argument mentions, as far as it settles them. -/
def unfoldMention (form : Form) (m : Mention) :
    Except Halt (List (Opt × List String) × Option Opt) :=
  form.unfold ((m.explicit.getD "").length + 1) m.option m.name m.explicit

/-! ## The second pass -/

/-- The command that its arguments name; it has to be one of the choices. -/
def chooseCommand (label : String) (choices : List String) (arguments : List String) :
    Except Halt Arguments :=
  match arguments with
  | [] => .ok .empty
  | name :: rest =>
    if choices.contains name then .ok { Arguments.empty with command := some (name, rest) }
    else
      .error (mistakeAt label ("invalid choice: " ++ Text.quoted name ++ " (choose from " ++
        ", ".intercalate (choices.map Text.quoted) ++ ")"))

/-- The second pass, over the operands that are still to be filled. A divider goes with the operand
next to it. An unknown option, and an argument that no operand takes, is left over. -/
def consume (form : Form) : List Operand → List Token → Except Halt Arguments
  | _, [] => .ok .empty
  | operands, .option s none :: rest => do
    return (← consume form operands rest).leaving s
  | operands, .option _ (some mention) :: rest => do
    let (settled, pending) ← form.unfoldMention mention
    match pending with
    | none =>
      let entries ← settle settled
      return (← consume form operands rest).giving entries
    | some o =>
      if takesValue o then
        match rest with
        | .operand s :: rest =>
          let entries ← settle (settled ++ [(o, [s])])
          return (← consume form operands rest).giving entries
        | _ => .error (mistakeAt o.label "expected one argument")
      else
        let entries ← settle (settled ++ [(o, [])])
        return (← consume form operands rest).giving entries
  | .command label choices :: _, .divider :: .operand s :: rest =>
    chooseCommand label choices ("--" :: s :: rest.map Token.text)
  | .command label choices :: _, .operand s :: rest =>
    chooseCommand label choices (s :: rest.map Token.text)
  | .named label :: operands, .divider :: .operand s :: rest => do
    return (← consume form operands rest).giving [(label, taken ["--", s])]
  | .named label :: operands, .operand s :: .divider :: rest => do
    return (← consume form operands rest).giving [(label, taken [s, "--"])]
  | .named label :: operands, .operand s :: rest => do
    return (← consume form operands rest).giving [(label, taken [s])]
  | operands, token :: rest => do
    return (← consume form operands rest).leaving token.text

/-- Reads the arguments of a form. -/
def read (form : Form) (arguments : List String) : Except Halt Arguments := do
  let found ← form.consume form.operands (← form.tokens arguments)
  let missing := form.required.filter fun label => !found.has label
  if missing.isEmpty then return found
  throw (.mistake ("the following arguments are required: " ++ ", ".intercalate missing))

/-- The first lines of the help, up to the first empty one. -/
def usage (form : Form) : String :=
  let lines := Text.splitAll '\n' form.help.toList
  String.ofList ((lines.takeWhile fun line => !line.isEmpty).flatMap fun line => line ++ ['\n'])

end Form

end ContentGateway.Command
