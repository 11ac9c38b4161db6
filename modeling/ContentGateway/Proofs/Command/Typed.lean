import Mathlib
import ContentGateway.Proofs.Command.Shown
import ContentGateway.Proofs.Json.Reading
import ContentGateway.Proofs.Query.Written

/-!
# Whatever can be set can be typed

Every run of plain settings has arguments of `query` that show what the settings compile to. A text
among values is typed as a JSON text in which commas stand by their number, so the commas between
values are the only ones. Each flag makes its setting behind any others, so settings and flags go
side by side.

A limit with more digits than are exchanged with text can be set, but nothing is printed for it.
-/

namespace ContentGateway.Command

/-! ## Operands -/

/-- How a character stands in a text that is typed: a comma by its number. -/
def typedChar (c : Char) : List Char :=
  if c = ',' then Json.unicodeEscape ','.toNat else Json.textChar c

/-- A character is read back from how it is typed. -/
theorem readsAs_typedChar (c : Char) : Json.ReadsAs (typedChar c) (.char c) := by
  unfold typedChar
  split
  · next hc =>
    rw [hc]
    exact Json.readsAs_unicodeEscape (by decide)
  · exact Json.readsAs_textChar c

/-- No character is typed with a comma. -/
theorem comma_not_mem_typedChar (c : Char) : ',' ∉ typedChar c := by
  unfold typedChar
  split
  · simp [Json.unicodeEscape, Text.not_mem_hex (c := ',') rfl]
  · next hc => exact Json.not_mem_textChar (Ne.symm hc) rfl (by simp)

/-- An operand as it is typed. -/
def operandForm : Value → List Char
  | .text s => '"' :: s.toList.flatMap typedChar ++ ['"']
  | .int i => (Decimal.intText i).toList
  | .float x => Json.numberForm x
  | .bool b => (if b then "true" else "false").toList
  | _ => []

/-- An operand is read back from its form. -/
theorem readBy_operandForm {v : Value} (h : v.IsOperand) :
    Json.ReadBy Json.readValue (operandForm v) v := by
  cases h with
  | text s => exact Json.readBy_quoted readsAs_typedChar s
  | bool b => cases b <;> exact Json.readBy_word (by simp [Json.words])
  | int h => exact Json.readBy_int h
  | float x => exact Json.readBy_float x

/-- An operand is read back from how it is typed. -/
theorem parseValue_operandForm {v : Value} (h : v.IsOperand) :
    parseValue (String.ofList (operandForm v)) = .ok v := by
  have hread : Json.read (String.ofList (operandForm v ++ [])) = .ok v :=
    Json.read_form (readBy_operandForm h) (List.forall_mem_nil _)
  rw [List.append_nil] at hread
  rw [parseValue, hread]

/-- No operand is typed with a comma. -/
theorem comma_not_mem_operandForm {v : Value} (h : v.IsOperand) : ',' ∉ operandForm v := by
  have hnumeral : ∀ cs : List Char, Decimal.IsNumeral cs → ',' ∉ cs := fun cs hcs hmem =>
    absurd (hcs.mem ',' hmem) (by decide)
  cases h with
  | text s =>
    simp only [operandForm, List.mem_append, List.mem_cons, List.mem_flatMap, List.not_mem_nil,
      or_false, not_or, not_exists, not_and]
    exact ⟨⟨by decide, fun c _ => comma_not_mem_typedChar c⟩, by decide⟩
  | bool b => cases b <;> simp [operandForm]
  | int h => exact hnumeral _ (Decimal.isNumeral_intText _)
  | float x =>
    cases x with
    | nan => simp [operandForm, Json.numberForm]
    | infinite negative => cases negative <;> simp [operandForm, Json.numberForm]
    | finite negative rank => exact hnumeral _ (Decimal.isNumeral_text _)

/-- Operands as they are typed in a list. -/
def listForm (vs : List Value) : List Char := [','].intercalate (vs.map operandForm)

/-- Operands are read back from how they are typed in a list. -/
theorem parseList_listForm {vs : List Value} (h : ∀ v ∈ vs, v.IsOperand) :
    parseList (String.ofList (listForm vs)) = .ok vs := by
  have hvalues : ∀ ws : List Value, (∀ v ∈ ws, v.IsOperand) →
      ws.mapM (fun v => parseValue (String.ofList (operandForm v))) = .ok ws := by
    intro ws hws
    induction ws with
    | nil => rfl
    | cons w ws ih =>
      obtain ⟨hw, hws⟩ := List.forall_mem_cons.mp hws
      exact mapM_cons_eq_ok.mpr ⟨w, ws, parseValue_operandForm hw, ih hws, rfl⟩
  cases vs with
  | nil => rfl
  | cons v vs =>
    have hforms : ∀ form ∈ (v :: vs).map operandForm, ',' ∉ form := by
      intro form hform
      obtain ⟨w, hw, rfl⟩ := List.mem_map.mp hform
      exact comma_not_mem_operandForm (h w hw)
    -- no form is empty, so an empty text is never one of a list that has values
    have hsome : (String.ofList (listForm (v :: vs))).isEmpty = false := by
      obtain ⟨c, cs, hcs, -⟩ := (readBy_operandForm (h v List.mem_cons_self)).begins
      obtain ⟨tail, htail⟩ := Text.exists_intercalate_cons [','] (operandForm v)
        (vs.map operandForm)
      have hne : listForm (v :: vs) ≠ [] := by
        rw [listForm, List.map_cons, htail, hcs]
        exact List.cons_ne_nil _ _
      simpa using hne
    rw [parseList, hsome, String.toList_ofList, listForm,
      Text.splitAll_intercalate hforms (List.cons_ne_nil _ _), List.mapM_map]
    exact hvalues _ h

/-- An operand can be typed for an operator that accepts it. -/
theorem parseOperand_ok {op : Operator} {v : Value} (h : op.Accepts v) :
    ∃ s, parseOperand op s = .ok v := by
  have hnumber : v.IsOperand ∧ v.IsNumeric →
      parseNumber op (String.ofList (operandForm v)) = .ok v := by
    rintro ⟨hoperand, hnumeric⟩
    rw [parseNumber, parseValue_operandForm hoperand]
    cases v with
    | int | float => rfl
    | _ => exact hnumeric.elim
  cases op with
  | equals | notEquals => exact ⟨_, parseValue_operandForm h⟩
  | greaterThan | greaterOrEqual | lessThan | lessOrEqual => exact ⟨_, hnumber h⟩
  | contains | startsWith | endsWith =>
    obtain ⟨s, rfl⟩ := h
    exact ⟨s, rfl⟩
  | isIn =>
    obtain ⟨vs, rfl, hvs⟩ := h
    exact ⟨_, bind_eq_ok.mpr ⟨vs, parseList_listForm hvs, rfl⟩⟩
  | other word => exact h.elim

/-- A field that is not empty and has no equals sign is told from its value. -/
theorem splitAssignment_ok {field : String} (hne : field ≠ "") (hsign : '=' ∉ field.toList)
    (s : String) : splitAssignment (field ++ "=" ++ s) = .ok (field, s) := by
  have hchars : (field ++ "=" ++ s).toList = field.toList ++ '=' :: s.toList := by simp
  obtain ⟨c, cs, hcs⟩ := List.exists_cons_of_ne_nil (mt String.toList_eq_nil_iff.mp hne)
  rw [splitAssignment, hchars, Text.splitFirst?_append hsign, hcs]
  dsimp only
  rw [← hcs, String.ofList_toList, String.ofList_toList]

/-! ## Entries and settings -/

/-- Whether an entry behind others makes a setting. -/
def Makes (entry : String × Value) (s : Query.Setting) : Prop :=
  ∀ entries q, queryOf ⟨entries, [], none⟩ = .ok q →
    queryOf ⟨entries ++ [entry], [], none⟩ = .ok (q.set s)

/-- An entry that comes last decides what was given for its label, and for no other. -/
theorem value_append (entries : List (String × Value)) (entry : String × Value) (label : String) :
    (⟨entries ++ [entry], [], none⟩ : Arguments).value label =
      if entry.1 = label then entry.2 else (⟨entries, [], none⟩ : Arguments).value label := by
  rw [Arguments.value, Arguments.last?, Arguments.value, Arguments.last?, List.reverse_append,
    List.reverse_singleton, List.singleton_append, List.find?_cons]
  by_cases h : entry.1 = label
  · simp [h]
  · simp [h]

/-- The filter members of entries with one more behind them. By induction on the entries. -/
theorem filterParts_append (entries : List (String × Value)) {entry : String × Value}
    {more parts : List FilterPart} (hentry : filterParts [entry] = .ok more)
    (h : filterParts entries = .ok parts) :
    filterParts (entries ++ [entry]) = .ok (parts ++ more) := by
  induction entries generalizing parts with
  | nil =>
    cases h
    exact hentry
  | cons first entries ih =>
    obtain ⟨name, argument⟩ := first
    rw [filterParts] at h
    rw [List.cons_append, filterParts]
    cases hflag : FilterFlag.ofName? name with
    | none =>
      rw [hflag] at h
      exact ih h
    | some flag =>
      rw [hflag] at h
      obtain ⟨part, hpart, h⟩ := bind_eq_ok.mp h
      obtain ⟨rest, hrest, h⟩ := bind_eq_ok.mp h
      cases h
      exact bind_eq_ok.mpr ⟨part, hpart, bind_eq_ok.mpr ⟨rest ++ more, ih hrest, rfl⟩⟩

/-- An entry behind others adds to the filter, or replaces what was given for its label. -/
theorem queryOf_append {entries : List (String × Value)} {q : Query}
    (hq : queryOf ⟨entries, [], none⟩ = .ok q) {entry : String × Value} (more : List FilterPart)
    (hmore : filterParts [entry] = .ok more) (order : Option SortOrder)
    (horder : entry.1 = "--orderby" → sortOrder entry.2 = .ok order) :
    queryOf ⟨entries ++ [entry], [], none⟩ =
      .ok ⟨q.parts ++ more, if entry.1 = "--orderby" then order else q.sortOrder,
        if entry.1 = "--top" then entry.2 else q.top,
        if entry.1 = "--skip" then entry.2 else q.skip,
        if entry.1 = "--search" then entry.2 else q.search⟩ := by
  obtain ⟨hparts, hsame, htop, hskip, hsearch⟩ := queryOf_eq_ok.mp hq
  rw [queryOf_eq_ok, value_append, value_append, value_append, value_append, ← htop, ← hskip,
    ← hsearch]
  refine ⟨filterParts_append entries hmore hparts, ?_, rfl, rfl, rfl⟩
  split
  · next hlabel => exact horder hlabel
  · exact hsame

/-- An entry that adds a filter member. -/
theorem makes_filter {flag : FilterFlag} (hflag : flag ∈ FilterFlag.all) {v : Value}
    {part : FilterPart} (h : filterPart flag v = .ok part) :
    Makes (flag.name, v) (.filter part) := by
  have hnames : ∀ flag ∈ FilterFlag.all, FilterFlag.ofName? flag.name = some flag ∧
      flag.name ∉ ["--orderby", "--top", "--skip", "--search"] := by decide
  obtain ⟨hname, hother⟩ := hnames flag hflag
  simp only [List.mem_cons, List.not_mem_nil, or_false, not_or] at hother
  have hpart : filterParts [(flag.name, v)] = .ok [part] := by
    rw [filterParts, hname]
    exact bind_eq_ok.mpr ⟨part, h, rfl⟩
  intro entries q hq
  rw [queryOf_append hq _ hpart none fun hlabel => absurd hlabel hother.1]
  simp only [hother, if_false, Query.set]

/-- An entry that replaces the order. -/
theorem makes_orderBy {v : Value} {order : SortOrder} (h : sortOrder v = .ok (some order)) :
    Makes ("--orderby", v) (.orderBy order) := by
  intro entries q hq
  rw [queryOf_append hq [] rfl _ fun _ => h]
  simp [Query.set]

/-- An entry that replaces the limit, the offset or the search term. -/
theorem makes_value (v : Value) : Makes ("--top", v) (.top v) ∧ Makes ("--skip", v) (.skip v) ∧
    Makes ("--search", v) (.search v) := by
  refine ⟨?_, ?_, ?_⟩ <;>
  · intro entries q hq
    rw [queryOf_append hq [] rfl none (by simp)]
    simp [Query.set]

/-! ## Flags for settings -/

/-- A flag with a text gives the text, unless that is the divider. -/
theorem QueryFlag.entry_text {flag : QueryFlag} (htakes : flag.option.takes = .text)
    (hvalue : flag.value ≠ "--") : flag.entry = .ok (flag.option.label, .text flag.value) := by
  have htaken : Form.taken [flag.value] = .text flag.value := by
    rw [Form.taken_singleton, if_neg hvalue]
  rw [entry, Form.optionValue, htakes, htaken]
  rfl

/-- A flag with the text of a whole number gives the number. -/
theorem QueryFlag.entry_whole {flag : QueryFlag} (htakes : flag.option.takes = .wholeNumber)
    {i : ℤ} (hi : i.natAbs < 10 ^ Decimal.digitLimit) (hvalue : flag.value = Decimal.intText i) :
    flag.entry = .ok (flag.option.label, .int i) := by
  have hread := Decimal.readInt?_intText hi
  have hdivider : Decimal.intText i ≠ "--" := by
    intro hdivider
    have hnone : Decimal.readInt? "--" = none := by decide
    rw [hdivider, hnone] at hread
    cases hread
  have htaken : Form.taken [flag.value] = .text (Decimal.intText i) := by
    rw [Form.taken_singleton, hvalue, if_neg hdivider]
  rw [entry, Form.optionValue, htakes, htaken]
  dsimp only
  rw [hread]
  rfl

/-- Whether a flag gives an entry that makes a setting. -/
def QueryFlag.Sets (flag : QueryFlag) (s : Query.Setting) : Prop :=
  ∃ entry, flag.entry = .ok entry ∧ Makes entry s

/-- A filter flag with a text. -/
def filterFlag {flag : FilterFlag} (hflag : flag ∈ FilterFlag.all) (value : String) : QueryFlag :=
  ⟨⟨[flag.name], .text⟩, value, List.mem_append_left _ (List.mem_map_of_mem hflag)⟩

/-- A filter flag with a text that is no divider adds its member. -/
theorem filterFlag_sets {flag : FilterFlag} (hflag : flag ∈ FilterFlag.all) {value : String}
    (hvalue : value ≠ "--") {part : FilterPart} (h : filterPart flag (.text value) = .ok part) :
    (filterFlag hflag value).Sets (.filter part) := by
  have hlabel : (⟨[flag.name], .text⟩ : Opt).label = flag.name := by simp [Opt.label]
  refine ⟨(flag.name, .text value), ?_, makes_filter hflag h⟩
  rw [← hlabel]
  exact QueryFlag.entry_text rfl hvalue

/-- A field and a direction with a blank between them are an order. -/
theorem sortOrder_ok {field direction : String} (hne : field ≠ "")
    (hblank : ∀ c ∈ field.toList, Text.isBlank c = false)
    (hdirection : direction = "asc" ∨ direction = "desc") :
    sortOrder (.text (field ++ " " ++ direction)) =
      .ok (some ⟨.text field, .text direction⟩) := by
  have hchars : (field ++ " " ++ direction).toList = field.toList ++ ' ' :: direction.toList := by
    simp
  have hsome : (field ++ " " ++ direction).isEmpty = false := by simp
  have hsolid : ∀ c ∈ direction.toList, Text.isBlank c = false := by
    rcases hdirection with rfl | rfl <;> simp [Text.isBlank]
  have hword : direction.toList ≠ [] := by
    rcases hdirection with rfl | rfl <;> simp
  have hwords : Text.words (field ++ " " ++ direction).toList =
      [field.toList, direction.toList] := by
    rw [hchars, Text.words_append hblank (mt String.toList_eq_nil_iff.mp hne) rfl,
      Text.words_of_solid hsolid hword]
  have hallowed : (decide (direction = "asc") || decide (direction = "desc")) = true := by
    simpa using hdirection
  rw [sortOrder, hsome, parseOrder, hwords]
  simp only [List.map_cons, List.map_nil, String.ofList_toList]
  rw [hallowed]
  rfl

/-- A plain setting is made by one flag. -/
theorem exists_flag {s : Query.Setting} (h : s.IsPlain) : ∃ flag : QueryFlag, flag.Sets s := by
  cases h with
  | @clause field op v hne hsign hoperand =>
    obtain ⟨text, htext⟩ := parseOperand_ok hoperand
    have hflag : FilterFlag.clause op ∈ FilterFlag.all := by
      cases op with
      | other word => exact hoperand.elim
      | _ => simp [FilterFlag.all, Operator.known]
    have hdivider : field ++ "=" ++ text ≠ "--" := by
      intro hdivider
      have hmem : '=' ∈ (field ++ "=" ++ text).toList := by simp
      rw [hdivider] at hmem
      simp at hmem
    refine ⟨_, filterFlag_sets hflag hdivider ?_⟩
    rw [filterPart]
    dsimp only
    rw [splitAssignment_ok hne hsign]
    exact bind_eq_ok.mpr ⟨(field, text), rfl, bind_eq_ok.mpr ⟨v, htext, rfl⟩⟩
  | @raw text htext =>
    have hflag : FilterFlag.raw ∈ FilterFlag.all := by decide
    exact ⟨_, filterFlag_sets hflag htext rfl⟩
  | @orderBy field direction hne hblank hdirection =>
    have hdivider : field ++ " " ++ direction ≠ "--" := by
      intro hdivider
      have hmem : ' ' ∈ (field ++ " " ++ direction).toList := by simp
      rw [hdivider] at hmem
      simp at hmem
    exact ⟨⟨⟨["--orderby"], .text⟩, field ++ " " ++ direction, by simp [Grammar.queryOptions]⟩, _,
      QueryFlag.entry_text rfl hdivider, makes_orderBy (sortOrder_ok hne hblank hdirection)⟩
  | @top i hi =>
    exact ⟨⟨⟨["--top"], .wholeNumber⟩, Decimal.intText i, by simp [Grammar.queryOptions]⟩, _,
      QueryFlag.entry_whole rfl hi rfl, (makes_value _).1⟩
  | @skip i hi =>
    exact ⟨⟨⟨["--skip"], .wholeNumber⟩, Decimal.intText i, by simp [Grammar.queryOptions]⟩, _,
      QueryFlag.entry_whole rfl hi rfl, (makes_value _).2.1⟩
  | @search text htext =>
    exact ⟨⟨⟨["--search"], .text⟩, text, by simp [Grammar.queryOptions]⟩, _,
      QueryFlag.entry_text rfl htext, (makes_value _).2.2⟩

/-- Plain settings are made by flags one by one. By induction on the settings from behind. -/
theorem exists_flags {settings : List Query.Setting} (h : ∀ s ∈ settings, s.IsPlain) :
    ∃ (flags : List QueryFlag) (entries : List (String × Value)),
      flags.mapM QueryFlag.entry = .ok entries ∧
      queryOf ⟨entries, [], none⟩ = .ok (settings.foldl Query.set Query.empty) := by
  induction settings using List.reverseRecOn with
  | nil => exact ⟨[], [], rfl, rfl⟩
  | append_singleton settings s ih =>
    obtain ⟨hsettings, hs⟩ := List.forall_mem_append.mp h
    obtain ⟨flags, entries, hentries, hq⟩ := ih hsettings
    obtain ⟨flag, entry, hentry, hmakes⟩ := exists_flag (hs s List.mem_cons_self)
    refine ⟨flags ++ [flag], entries ++ [entry], ?_, ?_⟩
    · rw [List.mapM_append, hentries, List.mapM_cons, hentry]
      rfl
    · rw [List.foldl_append]
      exact hmakes entries _ hq

/-- Plain settings have arguments of `query` that ask for the very query that they make, and show
what it compiles to: the program ends well, and its output holds the parameters, in every
environment and at a terminal or not. -/
theorem exists_arguments {settings : List Query.Setting} (h : ∀ s ∈ settings, s.IsPlain) :
    ∃ (arguments : List String) (own given : Arguments) (parameters : Fields),
      readArguments ("query" :: arguments) = .ok ⟨own, .query given⟩ ∧
      queryOf given = .ok (settings.foldl Query.set Query.empty) ∧
      (settings.foldl Query.set Query.empty).compile = .ok parameters ∧
      ∀ env input terminal tape,
        let shown := run ⟨"query" :: arguments, env, input, terminal⟩ tape
        shown.result = .ok (.exit 0) ∧
          Json.read (standardOutput shown.events) = .ok (.dict parameters) := by
  obtain ⟨parameters, hparameters⟩ := Query.compile_plain h
  obtain ⟨flags, entries, hentries, hq⟩ := exists_flags h
  refine ⟨flags.map QueryFlag.argument, _, _, parameters, readArguments_query hentries, hq,
    hparameters, fun env input terminal tape => ?_⟩
  have hasked : parametersOf ⟨entries, [], none⟩ = .ok parameters := by
    rw [parametersOf, hq]
    exact hparameters
  obtain ⟨s, hrun, hread⟩ := run_query_ok env input terminal tape hentries hasked
  rw [showing] at hrun
  dsimp only
  rw [hrun, standardOutput_printed]
  exact ⟨rfl, hread⟩

/-- A text with a comma in a list, an order that is replaced, and a limit below zero. -/
theorem exists_arguments_mixed : ∃ arguments : List String,
    ∀ env input terminal tape,
      let shown := run ⟨"query" :: arguments, env, input, terminal⟩ tape
      shown.result = .ok (.exit 0) ∧
        Json.read (standardOutput shown.events) = .ok (.dict [
          ("$filter", .text "a in ('x,y',true) and b ne 3"), ("$orderby", .text "c desc"),
          ("$top", .int (-1))]) := by
  have hlimit : ∀ i : ℤ, i.natAbs < 10 → i.natAbs < 10 ^ Decimal.digitLimit := fun i hi =>
    hi.trans_le (Nat.le_self_pow (by decide) 10)
  have hplain : ∀ s ∈ ([.orderBy ⟨.text "a", .text "asc"⟩,
      .filter (.clause ⟨.text "a", .isIn, .list [.text "x,y", .bool true]⟩), .top (.int (-1)),
      .filter (.clause ⟨.text "b", .notEquals, .int 3⟩), .orderBy ⟨.text "c", .text "desc"⟩] :
        List Query.Setting), s.IsPlain := by
    have hitems : Operator.isIn.Accepts (.list [.text "x,y", .bool true]) := by
      refine ⟨_, rfl, ?_⟩
      simp only [List.forall_mem_cons]
      exact ⟨.text _, .bool _, List.forall_mem_nil _⟩
    have hthree : Operator.notEquals.Accepts (.int 3) := .int (hlimit 3 (by decide))
    simp only [List.forall_mem_cons]
    exact ⟨.orderBy (by decide) (by simp [Text.isBlank]) (.inl rfl),
      .clause (by decide) (by simp) hitems, .top (hlimit _ (by decide)),
      .clause (by decide) (by simp) hthree,
      .orderBy (by decide) (by simp [Text.isBlank]) (.inr rfl), List.forall_mem_nil _⟩
  obtain ⟨arguments, -, -, parameters, -, -, hparameters, hshown⟩ := exists_arguments hplain
  cases hparameters
  exact ⟨arguments, hshown⟩

/-! ## Beyond the limit -/

/-- A number that is too long has no JSON form. -/
theorem write_limit_error {i : ℤ} (hi : ¬ i.natAbs < 10 ^ Decimal.digitLimit)
    (layout : Json.Layout) (strictness : Json.Strictness) (name : String) :
    ∃ f, Json.write layout strictness (.dict [(name, .int i)]) = .error f := by
  have hnone : Decimal.intText? i = none := by
    rw [← Option.not_isSome_iff_eq_none, intText?_isSome_iff]
    exact hi
  have hwhole : Value.wholeText i = .error (.digitLimit none) := by rw [Value.wholeText, hnone]
  refine ⟨.digitLimit none, ?_⟩
  rw [Json.write, Json.valueForm, Json.fieldForms, Json.valueForm, hwhole]
  rfl

/-- A limit with one digit too many can be set and compiled, but flags that asked for it would print
nothing, and no output of the program holds it. -/
theorem top_beyond_limit :
    (Query.empty.set (.top (.int (10 ^ Decimal.digitLimit)))).compile =
        .ok [("$top", .int (10 ^ Decimal.digitLimit))] ∧
      (∀ terminal given tape,
        parametersOf given = .ok [("$top", .int (10 ^ Decimal.digitLimit))] →
          (runQuery terminal given tape).result ≠ .ok ()) ∧
      ∀ invocation tape, Json.read (standardOutput (run invocation tape).events) ≠
        .ok (.dict [("$top", .int (10 ^ Decimal.digitLimit))]) := by
  have hcompile : ∀ i : ℤ, (Query.empty.set (.top (.int i))).compile = .ok [("$top", .int i)] :=
    fun i => rfl
  have hlong := Decimal.not_natAbs_ten_pow_lt Decimal.digitLimit
  -- the power itself is never worked out: that it is too long is all that counts
  generalize (10 : ℤ) ^ Decimal.digitLimit = i at *
  refine ⟨hcompile i, fun terminal given tape hgiven => ?_, fun invocation tape hread => ?_⟩
  · obtain ⟨f, hwrite⟩ := write_limit_error hlong (layoutFor terminal) .lenient "$top"
    obtain ⟨q, hq, hparameters⟩ := bind_eq_ok.mp hgiven
    rw [runQuery, hq, Job.ok_bind, hparameters, Job.ok_bind, printValue_error terminal tape hwrite]
    intro hok
    cases hok
  · have hjson := Json.read_isJson hread
    cases hjson with
    | dict hfields =>
      have htop := hfields ("$top", .int i) List.mem_cons_self
      cases htop with
      | int hi => exact hlong hi

end ContentGateway.Command
