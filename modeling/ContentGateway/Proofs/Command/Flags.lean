import Mathlib
import ContentGateway.Command.Program
import ContentGateway.Proofs.Steps
import ContentGateway.Proofs.Text.Basic

/-!
# Flags of queries

A flag that carries its value behind an equals sign is one argument, and reading it does not depend
on its neighbours: each flag gives one entry, in the order of the arguments, whether the flags stand
behind `query` or behind the schema of a listing. On the levels above, none of them looks like an
option of that level, so all of them are handed down as they are.
-/

namespace ContentGateway.Command

/-- A flag of a query with its value behind an equals sign. -/
structure QueryFlag where
  option : Opt
  value : String
  known : option ∈ Grammar.queryOptions

namespace QueryFlag

def argument (flag : QueryFlag) : String := flag.option.label ++ "=" ++ flag.value

/-- What the flag is known as. -/
def token (flag : QueryFlag) : Token :=
  .option flag.argument (some ⟨flag.option, flag.option.label, some flag.value⟩)

/-- What the flag gives: its label and its value. -/
def entry (flag : QueryFlag) : Except Halt (String × Value) := do
  return (flag.option.label, ← Form.optionValue flag.option [flag.value])

end QueryFlag

namespace Grammar

/-- Every option of a query has one long name and takes a value. -/
theorem queryOptions_names : ∀ o ∈ queryOptions, o.names = [o.label] ∧ '=' ∉ o.label.toList ∧
    "--".toList.isPrefixOf o.label.toList ∧ Form.takesValue o := by decide

/-- Every option of a query is found by its name, in front of everything else. -/
theorem find?_queryOption (form : Form) (hform : form.options = helpOption :: queryOptions) :
    ∀ o ∈ queryOptions, form.find? o.label = some o := by
  have hnames : form.names = helpOption.names.map (fun name => (name, helpOption)) ++
      queryOptions.map fun o => (o.label, o) := by
    rw [Form.names, hform]
    rfl
  have hlabels : ∀ o ∈ queryOptions, o.label ∉ helpOption.names := by decide
  have hnodup : (queryOptions.map Opt.label).Nodup := by decide
  intro o ho
  have hhelp : (helpOption.names.map fun name => (name, helpOption)).find?
      (fun entry => decide (entry.1 = o.label)) = none := by
    simp only [List.find?_eq_none, List.mem_map]
    rintro entry ⟨name, hname, rfl⟩ heq
    exact hlabels o ho (of_decide_eq_true heq ▸ hname)
  rw [Form.find?, hnames, List.find?_append, hhelp, Option.none_or]
  -- the options in front of this one have other names
  obtain ⟨front, back, hsplit⟩ := List.append_of_mem ho
  rw [hsplit, List.map_append, List.map_cons] at hnodup
  have hfront : ((front.map fun o => (o.label, o)).find?
      fun entry => decide (entry.1 = o.label)) = none := by
    simp only [List.find?_eq_none, List.mem_map]
    rintro entry ⟨other, hother, rfl⟩ heq
    have hlabel : other.label = o.label := of_decide_eq_true heq
    exact List.disjoint_of_nodup_append hnodup (List.mem_map_of_mem hother)
      (hlabel ▸ List.mem_cons_self)
  rw [hsplit, List.map_append, List.find?_append, hfront, Option.none_or, List.map_cons,
    List.find?_cons_of_pos (by simp)]
  rfl

end Grammar

namespace QueryFlag

variable (flag : QueryFlag)

/-- A flag is its label, an equals sign and its value. -/
theorem toList_argument : flag.argument.toList =
    flag.option.label.toList ++ '=' :: flag.value.toList := by
  rw [argument, String.toList_append, String.toList_append, List.append_assoc]
  simp

/-- The label and the value of a flag are found at its first equals sign. -/
theorem splitValue_argument :
    Form.splitValue flag.argument = some (flag.option.label, flag.value) := by
  obtain ⟨-, hsign, -⟩ := Grammar.queryOptions_names _ flag.known
  rw [Form.splitValue, toList_argument, Text.splitFirst?_append hsign, Option.map_some]
  dsimp only
  rw [String.ofList_toList, String.ofList_toList]

/-- A flag begins like a long option. -/
theorem isPrefixOf_argument : "--".toList.isPrefixOf flag.argument.toList := by
  obtain ⟨-, -, hdashes, -⟩ := Grammar.queryOptions_names _ flag.known
  rw [List.isPrefixOf_iff_prefix] at hdashes ⊢
  rw [toList_argument]
  exact hdashes.trans (List.prefix_append _ _)

/-- A flag is not the name of an option whose name has no equals sign. -/
theorem argument_ne {name : String} (hname : '=' ∉ name.toList) : flag.argument ≠ name := by
  rintro rfl
  refine hname ?_
  rw [toList_argument]
  exact List.mem_append_right _ List.mem_cons_self

/-- A form with the options of a query knows each of its flags. -/
theorem classify_argument {form : Form}
    (hform : form.options = Grammar.helpOption :: Grammar.queryOptions) :
    form.classify flag.argument = .ok flag.token := by
  have hnames : ∀ entry ∈ form.names, '=' ∉ entry.1.toList := by
    rw [Form.names, hform]
    decide
  -- the whole text is no name, as no name has an equals sign
  have hself : form.find? flag.argument = none := by
    rw [Form.find?, Option.map_eq_none_iff, List.find?_eq_none]
    intro entry hentry heq
    exact flag.argument_ne (hnames entry hentry) (of_decide_eq_true heq).symm
  have hexact : form.exactMention? flag.argument =
      some ⟨flag.option, flag.option.label, some flag.value⟩ := by
    rw [Form.exactMention?, hself, splitValue_argument]
    dsimp only
    rw [Grammar.find?_queryOption form hform _ flag.known]
    rfl
  have hdash : ¬ (flag.argument.toList.head? ≠ some '-' ∨ flag.argument = "-") := by
    obtain ⟨rest, hrest⟩ := List.isPrefixOf_iff_prefix.mp flag.isPrefixOf_argument
    have hname : '=' ∉ "-".toList := by simp
    have hhead : flag.argument.toList.head? = some '-' := by
      rw [← hrest]
      rfl
    exact not_or.mpr ⟨not_not.mpr hhead, flag.argument_ne hname⟩
  rw [Form.classify, if_neg (by simpa only [Bool.or_eq_true, decide_eq_true_eq] using hdash),
    hexact]
  rfl

end QueryFlag

/-! ## The level of the flags -/

namespace Form

variable {form : Form}

/-- In the first pass, each flag of a query is known by its label. -/
theorem tokens_flags (hform : form.options = Grammar.helpOption :: Grammar.queryOptions)
    (flags : List QueryFlag) :
    form.tokens (flags.map QueryFlag.argument) = .ok (flags.map QueryFlag.token) := by
  induction flags with
  | nil => rfl
  | cons flag flags ih =>
    have hdivider : flag.argument ≠ "--" := flag.argument_ne (by simp)
    rw [List.map_cons, tokens, if_neg hdivider, flag.classify_argument hform, ih]
    rfl

/-- Flags give their entries in order. By induction on the flags. -/
theorem consume_flags (operands : List Operand) (flags : List QueryFlag) :
    form.consume operands (flags.map QueryFlag.token) =
      (flags.mapM QueryFlag.entry).map fun entries => ⟨entries, [], none⟩ := by
  induction flags with
  | nil =>
    rw [List.map_nil, consume.eq_def]
    rfl
  | cons flag flags ih =>
    obtain ⟨-, -, -, htakes⟩ := Grammar.queryOptions_names _ flag.known
    have hunfold : form.unfoldMention ⟨flag.option, flag.option.label, some flag.value⟩ =
        .ok ([(flag.option, [flag.value])], none) := by
      rw [unfoldMention, unfold, if_pos htakes]
    rw [List.map_cons, QueryFlag.token, consume.eq_def]
    dsimp only
    rw [hunfold, List.mapM_cons, QueryFlag.entry]
    simp only [bind, Except.bind, settle]
    cases optionValue flag.option [flag.value] with
    | error halt => rfl
    | ok v =>
      rw [ih]
      cases flags.mapM QueryFlag.entry <;> rfl

/-- The flags of `query` give their entries. -/
theorem read_query (flags : List QueryFlag) :
    Grammar.query.read (flags.map QueryFlag.argument) =
      (flags.mapM QueryFlag.entry).map fun entries => ⟨entries, [], none⟩ := by
  rw [read, tokens_flags rfl]
  simp only [bind, Except.bind]
  rw [consume_flags]
  cases flags.mapM QueryFlag.entry <;> rfl

/-- What a single argument is taken as: itself, and nothing for a divider. -/
theorem taken_singleton (s : String) : taken [s] = if s = "--" then .list [] else .text s := by
  split
  · next hs =>
    rw [hs]
    rfl
  · next hs => rw [taken, List.erase_of_not_mem (by simpa using Ne.symm hs)]

/-- The flags of a listing give their entries behind the schema. -/
theorem read_listing {schema : String} (hschema : schema.toList.head? ≠ some '-')
    (flags : List QueryFlag) :
    (Grammar.verb .list).read (schema :: flags.map QueryFlag.argument) =
      (flags.mapM QueryFlag.entry).map fun entries =>
        ⟨("schema", .text schema) :: entries, [], none⟩ := by
  have hdivider : schema ≠ "--" := by
    rintro rfl
    exact hschema rfl
  have hoperand : (Grammar.verb .list).classify schema = .ok (.operand schema) := by
    rw [classify, if_pos (by simp [hschema])]
  have htaken : taken [schema] = .text schema := by
    rw [taken_singleton, if_neg hdivider]
  -- the schema is the only operand, so none is left for what stands behind it
  have hconsume : (Grammar.verb .list).consume (Grammar.verb .list).operands
      (.operand schema :: flags.map QueryFlag.token) =
        ((Grammar.verb .list).consume [] (flags.map QueryFlag.token)).map
          (Arguments.giving [("schema", .text schema)]) := by
    rw [consume.eq_def, ← htaken]
    cases flags <;> rfl
  have hgiven : ∀ entries : List (String × Value),
      (⟨("schema", .text schema) :: entries, [], none⟩ : Arguments).has "schema" := by
    intro entries
    rw [Arguments.has, Arguments.last?, Option.isSome_map, List.find?_isSome]
    exact ⟨("schema", .text schema), by simp, by simp⟩
  rw [read, tokens, if_neg hdivider, hoperand, tokens_flags rfl]
  simp only [bind, Except.bind, pure, Except.pure]
  rw [hconsume, consume_flags]
  cases flags.mapM QueryFlag.entry with
  | error halt => rfl
  | ok entries =>
    have hmissing : (Grammar.verb .list).required.filter (fun label =>
        !(⟨("schema", .text schema) :: entries, [], none⟩ : Arguments).has label) = [] := by
      rw [List.filter_eq_nil_iff]
      intro label hlabel
      rw [List.mem_singleton.mp hlabel, hgiven]
      simp
    show (if _ then _ else _) = _
    rw [if_pos (by rw [List.isEmpty_iff]; exact hmissing)]
    rfl

/-- A schema and an identifier are all that reading a content is asked with. -/
theorem read_get {schema id : String} (hschema : schema.toList.head? ≠ some '-')
    (hid : id.toList.head? ≠ some '-') : (Grammar.verb .get).read [schema, id] =
      .ok ⟨[("schema", .text schema), ("content_id", .text id)], [], none⟩ := by
  have hdivider : ∀ s : String, s.toList.head? ≠ some '-' → s ≠ "--" := by
    rintro s hs rfl
    exact hs rfl
  have hoperand : ∀ s : String, s.toList.head? ≠ some '-' →
      (Grammar.verb .get).classify s = .ok (.operand s) := by
    intro s hs
    rw [classify, if_pos (by simp [hs])]
  have htaken : ∀ s : String, s.toList.head? ≠ some '-' → taken [s] = .text s := by
    intro s hs
    rw [taken_singleton, if_neg (hdivider s hs)]
  have hconsume : (Grammar.verb .get).consume (Grammar.verb .get).operands
      [.operand schema, .operand id] =
        .ok ⟨[("schema", .text schema), ("content_id", .text id)], [], none⟩ := by
    rw [← htaken schema hschema, ← htaken id hid]
    rfl
  rw [read, tokens, if_neg (hdivider schema hschema), hoperand schema hschema, tokens,
    if_neg (hdivider id hid), hoperand id hid]
  simp only [tokens, bind, Except.bind, pure, Except.pure]
  rw [hconsume]
  rfl

/-! ## The levels above -/

/-- An argument keeps its text. -/
theorem text_of_classify {s : String} {token : Token} (h : form.classify s = .ok token) :
    token.text = s := by
  rw [classify] at h
  split at h
  · cases h
    rfl
  split at h
  · cases h
    rfl
  split at h
  · cases h
    rfl
  · split at h <;> cases h <;> rfl
  · cases h

/-- Arguments that are told apart one by one are told apart together, and keep their texts. -/
theorem tokens_ok {arguments : List String}
    (h : ∀ s ∈ arguments, ∃ token, form.classify s = .ok token) :
    ∃ tokens, form.tokens arguments = .ok tokens ∧ tokens.map Token.text = arguments := by
  induction arguments with
  | nil => exact ⟨[], rfl, rfl⟩
  | cons s rest ih =>
    obtain ⟨⟨token, htoken⟩, hrest⟩ := List.forall_mem_cons.mp h
    obtain ⟨tokens, htokens, htexts⟩ := ih hrest
    rw [Form.tokens]
    split
    · next hs =>
      refine ⟨.divider :: rest.map .operand, rfl, ?_⟩
      rw [List.map_cons, List.map_map, hs]
      exact congrArg _ (List.map_id _)
    · refine ⟨token :: tokens, by rw [htoken, htokens]; rfl, ?_⟩
      rw [List.map_cons, text_of_classify htoken, htexts]

/-- A form that waits for a command hands everything behind it down. -/
theorem read_command {label word : String} {choices rest : List String}
    (hoperands : form.operands = [.command label choices]) (hrequired : form.required = [])
    (hword : word.toList.head? ≠ some '-') (hchoice : choices.contains word)
    (hrest : ∀ s ∈ rest, ∃ token, form.classify s = .ok token) :
    form.read (word :: rest) = .ok ⟨[], [], some (word, rest)⟩ := by
  have hdivider : word ≠ "--" := by
    rintro rfl
    exact hword rfl
  have hoperand : form.classify word = .ok (.operand word) := by
    rw [classify, if_pos (by simp [hword])]
  obtain ⟨tokens, htokens, htexts⟩ := tokens_ok hrest
  have hconsume : form.consume form.operands (.operand word :: tokens) =
      .ok ⟨[], [], some (word, rest)⟩ := by
    rw [hoperands, consume.eq_def]
    dsimp only
    rw [htexts, chooseCommand, if_pos hchoice]
    rfl
  rw [read, Form.tokens, if_neg hdivider, hoperand, htokens]
  simp only [bind, Except.bind, pure, Except.pure]
  rw [hconsume, hrequired]
  rfl

end Form

/-- What begins like no option is handed down. -/
theorem Form.classify_of_head {form : Form} {s : String} (h : s.toList.head? ≠ some '-') :
    ∃ token, form.classify s = .ok token :=
  ⟨.operand s, by rw [classify, if_pos (by simp [h])]⟩

/-- A flag of a query is handed down by a form that has no name beginning like one. -/
theorem QueryFlag.classify_foreign {form : Form} (hform : ∀ o ∈ Grammar.queryOptions,
    ∀ entry ∈ form.names, o.label.toList.isPrefixOf entry.1.toList = false) (flag : QueryFlag) :
    ∃ token, form.classify flag.argument = .ok token := by
  have hmentions : form.mentions flag.argument = [] := by
    rw [Form.mentions, if_pos flag.isPrefixOf_argument, Form.longMentions, splitValue_argument]
    dsimp only
    rw [List.filterMap_eq_nil_iff]
    intro entry hentry
    rw [if_neg (by simp [hform _ flag.known entry hentry])]
  rw [Form.classify]
  split
  · exact ⟨_, rfl⟩
  split
  · exact ⟨_, rfl⟩
  · simp only [hmentions]
    split <;> exact ⟨_, rfl⟩

/-! ## The whole -/

/-- A flag never asks for help. -/
theorem QueryFlag.entry_error {flag : QueryFlag} {halt : Halt} (h : flag.entry = .error halt) :
    ∃ message, halt = .mistake message := by
  have htakes : flag.option.takes = .text ∨ flag.option.takes = .wholeNumber := by
    obtain ⟨-, -, -, htakes⟩ := Grammar.queryOptions_names _ flag.known
    simpa [Form.takesValue] using htakes
  rw [entry, Form.optionValue.eq_def] at h
  rcases htakes with htakes | htakes
  · rw [htakes] at h
    cases h
  · simp only [htakes] at h
    split at h
    · next hhelp => cases hhelp
    · next hnothing => cases hnothing
    · split at h
      · cases h
      · cases h
        exact ⟨_, rfl⟩
    · cases h

variable {flags : List QueryFlag} {entries : List (String × Value)}

/-- Flags that cannot be read are a mistake. -/
theorem entries_error {halt : Halt} (h : flags.mapM QueryFlag.entry = .error halt) :
    ∃ message, halt = .mistake message := by
  obtain ⟨flag, -, hflag⟩ := mapM_error h
  exact QueryFlag.entry_error hflag

/-- Flags are handed down together. -/
theorem handed_flags {form : Form} (hform : ∀ o ∈ Grammar.queryOptions,
    ∀ entry ∈ form.names, o.label.toList.isPrefixOf entry.1.toList = false)
    (flags : List QueryFlag) :
    ∀ s ∈ flags.map QueryFlag.argument, ∃ token, form.classify s = .ok token := by
  intro s hs
  obtain ⟨flag, -, rfl⟩ := List.mem_map.mp hs
  exact flag.classify_foreign hform

/-- The program leaves what stands behind a command to that command. -/
theorem read_program {word : String} {rest : List String} (hword : word ∈ ["query", "content"])
    (hrest : ∀ s ∈ rest, ∃ token, Grammar.program.classify s = .ok token) :
    Grammar.program.read (word :: rest) = .ok ⟨[], [], some (word, rest)⟩ := by
  refine Form.read_command rfl rfl ?_ (by simpa using hword) hrest
  simp only [List.mem_cons, List.not_mem_nil, or_false] at hword
  rcases hword with rfl | rfl <;> simp

/-- What the arguments of `query` ask for, if the flags can be read. -/
theorem readArguments_query (h : flags.mapM QueryFlag.entry = .ok entries) :
    readArguments ("query" :: flags.map QueryFlag.argument) =
      .ok ⟨⟨[], [], some ("query", flags.map QueryFlag.argument)⟩, .query ⟨entries, [], none⟩⟩ := by
  have hprogram := read_program (.head _) (handed_flags (by decide) flags)
  have hread : Grammar.query.read (flags.map QueryFlag.argument) = .ok ⟨entries, [], none⟩ := by
    rw [Form.read_query, h]
    rfl
  rw [readArguments, Form.readOrRefuse, hprogram]
  simp only [bind, Except.bind, commandWish, if_true, Form.readOrRefuse, hread]
  rfl

/-- A flag that cannot be read is a mistake in the arguments of `query`. -/
theorem readArguments_query_error {halt : Halt} (h : flags.mapM QueryFlag.entry = .error halt) :
    ∃ message, readArguments ("query" :: flags.map QueryFlag.argument) =
      .error (.mistake Grammar.query message) := by
  have hprogram := read_program (.head _) (handed_flags (by decide) flags)
  have hread : Grammar.query.read (flags.map QueryFlag.argument) = .error halt := by
    rw [Form.read_query, h]
    rfl
  obtain ⟨message, rfl⟩ := entries_error h
  refine ⟨message, ?_⟩
  rw [readArguments, Form.readOrRefuse, hprogram]
  simp only [bind, Except.bind, commandWish, if_true, Form.readOrRefuse, hread]

/-- What the arguments of a listing ask for is settled on the level of its flags. -/
theorem readArguments_list {schema : String} (hschema : schema.toList.head? ≠ some '-')
    (flags : List QueryFlag) : ∃ own : Arguments, own.value "--base-url" = .null ∧
      readArguments ("content" :: "list" :: schema :: flags.map QueryFlag.argument) = (do
        let inner ← (Grammar.verb .list).readOrRefuse (schema :: flags.map QueryFlag.argument)
        if inner.extras.isEmpty then return ⟨own, .content .list inner⟩
        throw (.mistake Grammar.program
          ("unrecognized arguments: " ++ " ".intercalate inner.extras))) := by
  have hlist : "list".toList.head? ≠ some '-' := by simp
  have hcontent : Grammar.content.read ("list" :: schema :: flags.map QueryFlag.argument) =
      .ok ⟨[], [], some ("list", schema :: flags.map QueryFlag.argument)⟩ :=
    Form.read_command rfl rfl hlist (by decide) (List.forall_mem_cons.mpr
      ⟨Form.classify_of_head hschema, handed_flags (by decide) flags⟩)
  have hprogram := read_program (.tail _ (.head _)) (List.forall_mem_cons.mpr
    ⟨Form.classify_of_head hlist, List.forall_mem_cons.mpr
      ⟨Form.classify_of_head hschema, handed_flags (by decide) flags⟩⟩)
  have hverb : Verb.ofWord? "list" = some .list := by decide
  refine ⟨⟨[], [], some ("content", "list" :: schema :: flags.map QueryFlag.argument)⟩, rfl, ?_⟩
  rw [readArguments, Form.readOrRefuse, hprogram]
  simp only [bind, Except.bind, commandWish, contentWish, Form.readOrRefuse, hcontent, hverb]
  cases (Grammar.verb .list).read (schema :: flags.map QueryFlag.argument) with
  | ok inner => rfl
  | error halt => cases halt <;> rfl

/-- What the arguments of a listing ask for, if the flags can be read. -/
theorem readArguments_listing {schema : String} (hschema : schema.toList.head? ≠ some '-')
    (h : flags.mapM QueryFlag.entry = .ok entries) :
    ∃ own, readArguments ("content" :: "list" :: schema :: flags.map QueryFlag.argument) =
        .ok ⟨own, .content .list ⟨("schema", .text schema) :: entries, [], none⟩⟩ ∧
      own.value "--base-url" = .null := by
  obtain ⟨own, hown, hlevel⟩ := readArguments_list hschema flags
  refine ⟨own, ?_, hown⟩
  rw [hlevel, Form.readOrRefuse, Form.read_listing hschema, h]
  rfl

/-- A flag that cannot be read is a mistake in the arguments of a listing. -/
theorem readArguments_listing_error {schema : String} (hschema : schema.toList.head? ≠ some '-')
    {message : String} (h : flags.mapM QueryFlag.entry = .error (.mistake message)) :
    readArguments ("content" :: "list" :: schema :: flags.map QueryFlag.argument) =
      .error (.mistake (Grammar.verb .list) message) := by
  obtain ⟨own, -, hlevel⟩ := readArguments_list hschema flags
  rw [hlevel, Form.readOrRefuse, Form.read_listing hschema, h]
  rfl

/-- What a schema and an identifier ask for behind `content get`. -/
theorem readArguments_get {schema id : String} (hschema : schema.toList.head? ≠ some '-')
    (hid : id.toList.head? ≠ some '-') :
    ∃ own, readArguments ["content", "get", schema, id] = .ok ⟨own, .content .get
        ⟨[("schema", .text schema), ("content_id", .text id)], [], none⟩⟩ ∧
      own.value "--base-url" = .null := by
  have hget : "get".toList.head? ≠ some '-' := by simp
  have hoperands : ∀ (form : Form), ∀ s ∈ [schema, id], ∃ token, form.classify s = .ok token := by
    intro form s hs
    simp only [List.mem_cons, List.not_mem_nil, or_false] at hs
    rcases hs with rfl | rfl
    · exact Form.classify_of_head hschema
    · exact Form.classify_of_head hid
  have hcontent : Grammar.content.read ["get", schema, id] =
      .ok ⟨[], [], some ("get", [schema, id])⟩ :=
    Form.read_command rfl rfl hget (by decide) (hoperands _)
  have hprogram := read_program (.tail _ (.head _)) (List.forall_mem_cons.mpr
    ⟨Form.classify_of_head hget, hoperands _⟩)
  have hread := Form.read_get hschema hid
  have hverb : Verb.ofWord? "get" = some .get := by decide
  refine ⟨⟨[], [], some ("content", ["get", schema, id])⟩, ?_, rfl⟩
  rw [readArguments, Form.readOrRefuse, hprogram]
  simp only [bind, Except.bind, commandWish, contentWish, Form.readOrRefuse, hcontent, hverb, hread]
  rfl

end ContentGateway.Command
