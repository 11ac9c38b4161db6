import Mathlib
import ContentGateway.Proofs.Command.Typed
import ContentGateway.Proofs.Json.Reading
import ContentGateway.Proofs.Query.Literal
import ContentGateway.Proofs.Text.Basic

/-!
# Operands that are typed

The comparisons and membership read their operands as JSON, and take what is no JSON as plain text.
So the printed filter has one clause for each flag, in order, and an operand in it for each text
that was typed. Where no single quote was typed, a plain text is printed as a literal, and so is
what JSON has a literal for. Null, NaN, the infinities, lists and objects are JSON as well, and they
are printed as something that is no literal; so is a text in which an escape stands for a quote.
-/

namespace ContentGateway.Command

/-- The operators whose operands are read as values. -/
def comparisons : List Operator := [.equals, .notEquals, .greaterThan, .greaterOrEqual, .lessThan,
  .lessOrEqual, .isIn]

/-- The texts that are typed for the operands of an operator. -/
def operandTexts : Operator → String → List String
  | .isIn, s => if s.isEmpty then [] else (Text.splitAll ',' s.toList).map String.ofList
  | _, s => [s]

/-- A clause as it is printed, with the points of its operands. -/
structure Comparison where
  field : String
  operator : Operator
  operands : List (List Text.Point)

namespace Comparison

/-- The points of a clause: the operands of a membership stand in parentheses. -/
def points (c : Comparison) : List Text.Point :=
  let field := Text.points c.field.toList
  let operands := (Text.points [',']).intercalate c.operands
  match c.operator with
  | .isIn => field ++ Text.points [' ', 'i', 'n', ' ', '('] ++ operands ++ Text.points [')']
  | operator =>
    field ++ Text.points [' '] ++ Text.points operator.word.toList ++ Text.points [' '] ++ operands

end Comparison

/-- Whether an operand, as it is shown, is a literal if JSON does not say otherwise of what was
typed for it. -/
def LiteralUnless (typed : String) (operand : List Text.Point) : Prop :=
  IsLiteral (Text.mended operand).toList ↔ ∀ v, Json.read typed = .ok v → v.HasLiteral

/-- Whether a clause is what a flag adds to the printed filter. -/
def Comparison.IsOf (c : Comparison) (entry : String × Value) : Prop :=
  c.operator ∈ comparisons ∧ ∃ s typed, entry = ((FilterFlag.clause c.operator).name, .text s) ∧
    splitAssignment s = .ok (c.field, typed) ∧
    List.Forall₂ LiteralUnless (operandTexts c.operator typed) c.operands

/-! ## One operand -/

/-- What is read of a text without single quotes is written as a literal unless JSON has none. -/
theorem literalUnless_of_parseValue {typed : String} {operand : List Text.Point}
    (hquote : '\'' ∉ typed.toList) {v : Value} (hv : parseValue typed = .ok v)
    (hoperand : v.literalPoints = .ok operand) : LiteralUnless typed operand := by
  have hshown := Value.literalPoints_alike isSpelling_mended v.speltBy_mended
  rw [hoperand] at hshown
  obtain ⟨shown, hliteral, hmended⟩ := hshown.ok_left
  rw [parseValue] at hv
  rw [LiteralUnless, hmended]
  cases hread : Json.read typed with
  | ok w =>
    rw [hread] at hv
    cases hv
    rw [Value.isLiteral_iff (Json.read_isJson hread) hliteral]
    exact ⟨fun h u hu => Except.ok.inj hu ▸ h, fun h => h v rfl⟩
  | error stop =>
    rw [hread] at hv
    cases stop with
    | digitLimit digits => cases hv
    | flawed f =>
      cases hv
      cases hliteral
      rw [Value.isLiteral_text]
      refine iff_of_true hquote fun v hv => ?_
      cases hv

/-- A number that was typed is read as such, and written as a literal as it is without quotes. -/
theorem parseValue_of_parseNumber {op : Operator} {s : String} {v : Value}
    (h : parseNumber op s = .ok v) : parseValue s = .ok v ∧ v.plainPoints = v.literalPoints := by
  obtain ⟨w, hw, h⟩ := bind_eq_ok.mp h
  cases w with
  | int i =>
    cases h
    exact ⟨hw, rfl⟩
  | float x =>
    cases h
    exact ⟨hw, rfl⟩
  | _ => cases h

/-- A list is read operand by operand. -/
theorem parseList_eq (s : String) : parseList s = (operandTexts .isIn s).mapM parseValue := by
  rw [parseList, operandTexts]
  split
  · rfl
  · rw [List.mapM_map]
    rfl

/-! ## The operands of a clause -/

/-- What is typed for an operator is read text by text, and the clause is written with what each of
them gives. -/
theorem clause_of_typed {op : Operator} (hop : op ∈ comparisons) {field typed : String}
    {ps : List Text.Point} {v : Value} (hv : parseOperand op typed = .ok v)
    (hps : (Clause.mk (.text field) op v).points = .ok ps) :
    ∃ vs operands, (operandTexts op typed).mapM parseValue = .ok vs ∧
      vs.mapM Value.literalPoints = .ok operands ∧
      ps = (Comparison.mk field op operands).points := by
  have hone : ∀ {v : Value} {operand : List Text.Point}, parseValue typed = .ok v →
      v.literalPoints = .ok operand → [typed].mapM parseValue = .ok [v] ∧
        [v].mapM Value.literalPoints = .ok [operand] := fun hv hoperand =>
    ⟨mapM_cons_eq_ok.mpr ⟨_, _, hv, rfl, rfl⟩, mapM_cons_eq_ok.mpr ⟨_, _, hoperand, rfl, rfl⟩⟩
  have hfield : (Value.text field).displayPoints = .ok (Text.points field.toList) := rfl
  cases op with
  | equals | notEquals =>
    obtain ⟨name, hname, hps⟩ := bind_eq_ok.mp hps
    obtain ⟨operand, hoperand, hps⟩ := bind_eq_ok.mp hps
    cases hfield.symm.trans hname
    cases hps
    obtain ⟨hvalues, hoperands⟩ := hone hv hoperand
    exact ⟨_, _, hvalues, hoperands, by simp [Comparison.points]⟩
  | greaterThan | greaterOrEqual | lessThan | lessOrEqual =>
    obtain ⟨hvalue, hsame⟩ := parseValue_of_parseNumber hv
    obtain ⟨name, hname, hps⟩ := bind_eq_ok.mp hps
    obtain ⟨operand, hoperand, hps⟩ := bind_eq_ok.mp hps
    cases hfield.symm.trans hname
    cases hps
    obtain ⟨hvalues, hoperands⟩ := hone hvalue (hsame ▸ hoperand)
    exact ⟨_, _, hvalues, hoperands, by simp [Comparison.points]⟩
  | isIn =>
    obtain ⟨vs, hvs, hv⟩ := bind_eq_ok.mp hv
    cases hv
    obtain ⟨elements, helements, hps⟩ := bind_eq_ok.mp hps
    obtain ⟨operands, hoperands, hps⟩ := bind_eq_ok.mp hps
    obtain ⟨name, hname, hps⟩ := bind_eq_ok.mp hps
    cases helements
    cases hfield.symm.trans hname
    cases hps
    exact ⟨vs, operands, parseList_eq typed ▸ hvs, hoperands, rfl⟩
  | contains | startsWith | endsWith | other _ => simp [comparisons] at hop

/-- Texts without single quotes are each written as a literal unless JSON has none for it. -/
theorem forall₂_literalUnless {typed : List String} (hquotes : ∀ s ∈ typed, '\'' ∉ s.toList)
    {vs : List Value} (hvs : typed.mapM parseValue = .ok vs) {operands : List (List Text.Point)}
    (hoperands : vs.mapM Value.literalPoints = .ok operands) :
    List.Forall₂ LiteralUnless typed operands := by
  induction typed generalizing vs operands with
  | nil =>
    obtain rfl := mapM_nil_eq_ok.mp hvs
    obtain rfl := mapM_nil_eq_ok.mp hoperands
    exact .nil
  | cons s typed ih =>
    obtain ⟨v, ws, hv, hws, rfl⟩ := mapM_cons_eq_ok.mp hvs
    obtain ⟨operand, more, hoperand, hmore, rfl⟩ := mapM_cons_eq_ok.mp hoperands
    obtain ⟨hs, htyped⟩ := List.forall_mem_cons.mp hquotes
    exact .cons (literalUnless_of_parseValue hs hv hoperand) (ih htyped hws hmore)

/-- What is typed for an operand stands in the whole. -/
theorem infix_of_mem_operandTexts {op : Operator} {s part : String}
    (h : part ∈ operandTexts op s) : part.toList <:+: s.toList := by
  rw [operandTexts.eq_def] at h
  split at h
  · split at h
    · cases h
    · obtain ⟨cs, hcs, rfl⟩ := List.mem_map.mp h
      rw [Text.splitAll_eq_splitOn] at hcs
      rw [String.toList_ofList]
      exact Text.infix_of_mem_splitOn hcs
  · rw [List.mem_singleton.mp h]

/-- What stands behind the equals sign is the end of the whole. -/
theorem suffix_of_splitAssignment {s field typed : String}
    (h : splitAssignment s = .ok (field, typed)) : typed.toList <:+ s.toList := by
  rw [splitAssignment] at h
  split at h
  · next hcut =>
    cases h
    rw [Text.eq_of_splitFirst? hcut, String.toList_ofList]
    exact (List.suffix_cons _ _).trans (List.suffix_append _ _)
  · cases h

/-- What is typed for an operand of a flag stands in the value of the flag. -/
theorem infix_of_assigned {op : Operator} {s field typed part : String}
    (hassigned : splitAssignment s = .ok (field, typed)) (hpart : part ∈ operandTexts op typed) :
    part.toList <:+: s.toList :=
  (infix_of_mem_operandTexts hpart).trans (suffix_of_splitAssignment hassigned).isInfix

/-! ## The clauses of a filter -/

/-- A flag with a text without single quotes adds its clause. -/
theorem exists_comparison {op : Operator} (hop : op ∈ comparisons) {argument : Value}
    (hquotes : ∀ s, argument = .text s → '\'' ∉ s.toList) {part : FilterPart}
    {ps : List Text.Point} (hpart : filterPart (.clause op) argument = .ok part)
    (hps : part.points = .ok ps) :
    ∃ c : Comparison, c.IsOf ((FilterFlag.clause op).name, argument) ∧ ps = c.points := by
  cases argument with
  | text s =>
    obtain ⟨⟨field, typed⟩, hassigned, hpart⟩ := bind_eq_ok.mp hpart
    obtain ⟨v, hv, hpart⟩ := bind_eq_ok.mp hpart
    cases hpart
    obtain ⟨vs, operands, hvs, hoperands, rfl⟩ := clause_of_typed hop hv hps
    refine ⟨⟨field, op, operands⟩, ⟨hop, s, typed, rfl, hassigned, ?_⟩, rfl⟩
    refine forall₂_literalUnless (fun part hpart hquote => ?_) hvs hoperands
    exact hquotes s rfl ((infix_of_assigned hassigned hpart).subset hquote)
  | _ => cases hpart

/-- Flags with texts without single quotes add a clause each. By induction on the flags. -/
theorem exists_comparisons {entries : List (String × Value)}
    (hlabels : ∀ entry ∈ entries, ∃ op ∈ comparisons, entry.1 = (FilterFlag.clause op).name)
    (hquotes : ∀ entry ∈ entries, ∀ s, entry.2 = .text s → '\'' ∉ s.toList)
    {parts : List FilterPart} (hparts : filterParts entries = .ok parts)
    {pss : List (List Text.Point)} (hpss : parts.mapM FilterPart.points = .ok pss) :
    ∃ clauses : List Comparison, List.Forall₂ Comparison.IsOf clauses entries ∧
      pss = clauses.map Comparison.points := by
  induction entries generalizing parts pss with
  | nil =>
    cases hparts
    exact ⟨[], .nil, mapM_nil_eq_ok.mp hpss⟩
  | cons entry entries ih =>
    obtain ⟨name, argument⟩ := entry
    obtain ⟨⟨op, hop, hname⟩, hothers⟩ := List.forall_mem_cons.mp hlabels
    obtain ⟨hquote, hmoreQuotes⟩ := List.forall_mem_cons.mp hquotes
    have hflag : ∀ op ∈ comparisons,
        FilterFlag.ofName? (FilterFlag.clause op).name = some (.clause op) := by decide
    obtain rfl : name = (FilterFlag.clause op).name := hname
    rw [filterParts, hflag op hop] at hparts
    obtain ⟨part, hpart, hparts⟩ := bind_eq_ok.mp hparts
    obtain ⟨rest, hrest, hparts⟩ := bind_eq_ok.mp hparts
    cases hparts
    obtain ⟨ps, more, hps, hmore, rfl⟩ := mapM_cons_eq_ok.mp hpss
    obtain ⟨c, hc, rfl⟩ := exists_comparison hop hquote hpart hps
    obtain ⟨clauses, hclauses, rfl⟩ := ih hothers hmoreQuotes hrest hmore
    exact ⟨c :: clauses, .cons hc hclauses, rfl⟩

/-! ## The printed filter -/

/-- The parameters of a query that has nothing but clauses. -/
def filterOf (clauses : List Comparison) : Fields :=
  if clauses = [] then []
  else [("$filter", .ofPoints ((Text.points Query.conjunction.toList).intercalate
    (clauses.map Comparison.points)))]

section Run

variable {given : Arguments}
  (hlabels : ∀ entry ∈ given.given, ∃ op ∈ comparisons, entry.1 = (FilterFlag.clause op).name)
  (hquotes : ∀ entry ∈ given.given, ∀ s, entry.2 = .text s → '\'' ∉ s.toList)

include hlabels hquotes

/-- Flags for comparisons that compile ask for a filter and nothing else. -/
theorem parametersOf_comparisons {fields : Fields} (h : parametersOf given = .ok fields) :
    ∃ clauses : List Comparison, List.Forall₂ Comparison.IsOf clauses given.given ∧
      fields = filterOf clauses := by
  obtain ⟨q, hq, hfields⟩ := bind_eq_ok.mp h
  obtain ⟨hparts, horder, htop, hskip, hsearch⟩ := queryOf_eq_ok.mp hq
  have hnames : ∀ op ∈ comparisons, (FilterFlag.clause op).name ∉
      ["--orderby", "--top", "--skip", "--search"] := by decide
  have hnone : ∀ label ∈ ["--orderby", "--top", "--skip", "--search"],
      given.value label = .null := by
    intro label hlabel
    refine Arguments.value_eq_null ?_
    rintro ⟨entry, hentry, rfl⟩
    obtain ⟨op, hop, hname⟩ := hlabels entry hentry
    exact hnames op hop (hname ▸ hlabel)
  simp only [List.forall_mem_cons] at hnone
  obtain ⟨hnoOrder, hnoTop, hnoSkip, hnoSearch, -⟩ := hnone
  rw [hnoOrder] at horder
  have hunordered : q.sortOrder.mapM SortOrder.points = .ok none := by
    rw [← Except.ok.inj horder]
    rfl
  obtain ⟨filter?, hfilter, -⟩ := Query.compile_filter hfields
  obtain ⟨pss, hpss, rfl⟩ := Query.filterPoints_eq_ok hfilter
  obtain ⟨clauses, hclauses, rfl⟩ := exists_comparisons hlabels hquotes hparts hpss
  rw [Query.compile_of_points hfilter hunordered, Query.filter_candidates,
    Query.optional_ofPoints?, htop, hskip, hsearch, hnoTop, hnoSkip, hnoSearch] at hfields
  refine ⟨clauses, hclauses, ?_⟩
  obtain rfl := Except.ok.inj hfields
  have hempty : q.parts = [] ↔ clauses = [] := by
    rw [← List.length_eq_zero_iff, ← mapM_length hpss, List.length_map, List.length_eq_zero_iff]
  rw [filterOf]
  by_cases hnone : clauses = []
  · rw [if_pos hnone, if_pos (hempty.mpr hnone)]
    rfl
  · rw [if_neg hnone, if_neg (mt hempty.mp hnone)]
    rfl

/-- A query of comparisons, typed in any way without single quotes, that ends well prints one clause
for each flag, in order. An operand is a literal unless JSON reads what was typed for it as a value
that has none: null, a number that is not finite, a list, an object, or a text with a single
quote. -/
theorem run_operands {invocation : Invocation} {own : Arguments}
    (hread : readArguments invocation.arguments = .ok ⟨own, .query given⟩) {tape : Tape}
    (hrun : (run invocation tape).result = .ok (.exit 0)) :
    ∃ clauses : List Comparison, List.Forall₂ Comparison.IsOf clauses given.given ∧
      Json.read (standardOutput (run invocation tape).events) = .ok (.dict (filterOf clauses)) := by
  have hrunning : run invocation tape =
      concluding invocation.terminal (runQuery invocation.terminal given) tape := by
    rw [run, hread]
    rfl
  rw [hrunning] at hrun ⊢
  cases hfields : parametersOf given with
  | error f =>
    have herror := runQuery_error invocation.terminal tape hfields
    exact absurd hrun (concluding_error invocation.terminal herror).1
  | ok fields =>
    obtain ⟨clauses, hclauses, rfl⟩ := parametersOf_comparisons hlabels hquotes hfields
    have htyped : ∀ entry ∈ given.given, IsTyped entry.2 := by
      intro entry hentry
      obtain ⟨c, -, -, s, typed, rfl, -⟩ := exists_of_forall₂ hclauses.flip hentry
      exact .text s
    obtain ⟨s, hs, hprinted⟩ := runQuery_ok invocation.terminal tape htyped hfields
    rw [concluding_ok hs, standardOutput_printed]
    exact ⟨clauses, hclauses, hprinted⟩

end Run

theorem splitAssignment_null : splitAssignment "a=null" = .ok ("a", "null") := by
  have hne : "a" ≠ "" := by simp
  have hsign : '=' ∉ "a".toList := by simp
  exact splitAssignment_ok hne hsign "null"

/-- A flag with null for its operand compiles. -/
theorem exists_parametersOf_null :
    ∃ fields, parametersOf ⟨[("--eq", .text "a=null")], [], none⟩ = .ok fields := by
  have hnull : parseValue "null" = .ok .null := rfl
  have hpart : filterPart (.clause .equals) (.text "a=null") =
      .ok (.clause ⟨.text "a", .equals, .null⟩) :=
    bind_eq_ok.mpr ⟨_, splitAssignment_null, bind_eq_ok.mpr ⟨_, hnull, rfl⟩⟩
  have hparts : filterParts [("--eq", .text "a=null")] =
      .ok [.clause ⟨.text "a", .equals, .null⟩] :=
    bind_eq_ok.mpr ⟨_, hpart, bind_eq_ok.mpr ⟨_, rfl, rfl⟩⟩
  have hq : queryOf ⟨[("--eq", .text "a=null")], [], none⟩ = .ok ⟨_, none, .null, .null, .null⟩ :=
    queryOf_eq_ok.mpr ⟨hparts, rfl, rfl, rfl, rfl⟩
  have hwritten : ∀ part ∈ [FilterPart.clause ⟨.text "a", .equals, .null⟩],
      ∃ text, part.render = .ok text := List.forall_mem_singleton.mpr ⟨_, rfl⟩
  obtain ⟨fields, hfields⟩ := Query.compile_ok
    (q := ⟨[.clause ⟨.text "a", .equals, .null⟩], none, .null, .null, .null⟩) hwritten
    fun _ h => nomatch h
  exact ⟨fields, bind_eq_ok.mpr ⟨_, hq, hfields⟩⟩

/-- Null is typed for an operand: what is printed for it is no literal. -/
theorem run_operands_null : ∃ (flags : List QueryFlag) (clauses : List Comparison),
    flags.map QueryFlag.argument = ["--eq=a=null"] ∧
      Json.read (standardOutput (run (showing flags [] "" false) []).events) =
        .ok (.dict (filterOf clauses)) ∧
      ∃ c ∈ clauses, c.field = "a" ∧
        ∃ operand ∈ c.operands, ¬ IsLiteral (Text.mended operand).toList := by
  have hflag : FilterFlag.clause .equals ∈ FilterFlag.all := by decide
  obtain ⟨flags, harguments, hentries⟩ : ∃ flags : List QueryFlag,
      flags.map QueryFlag.argument = ["--eq=a=null"] ∧
        flags.mapM QueryFlag.entry = .ok [("--eq", .text "a=null")] :=
    ⟨[filterFlag hflag "a=null"], rfl, rfl⟩
  obtain ⟨fields, hfields⟩ := exists_parametersOf_null
  obtain ⟨s, hrun, -⟩ := run_query_ok [] "" false [] hentries hfields
  have hlabels : ∀ entry ∈ [("--eq", Value.text "a=null")], ∃ op ∈ comparisons,
      entry.1 = (FilterFlag.clause op).name :=
    List.forall_mem_singleton.mpr ⟨.equals, by decide, rfl⟩
  have hquotes : ∀ entry ∈ [("--eq", Value.text "a=null")], ∀ s, entry.2 = .text s →
      '\'' ∉ s.toList := by
    refine List.forall_mem_singleton.mpr fun s hs => ?_
    cases hs
    simp
  have hended : (run (showing flags [] "" false) []).result = .ok (.exit 0) := by rw [hrun]
  obtain ⟨clauses, hclauses, hprinted⟩ :=
    run_operands hlabels hquotes (readArguments_query hentries) hended
  refine ⟨flags, clauses, harguments, hprinted, ?_⟩
  obtain ⟨⟨field, operator, operands⟩, others, hclause, -, rfl⟩ :=
    List.forall₂_cons_right_iff.mp hclauses
  obtain ⟨hop, s, typed, hentry, hassigned, hoperands⟩ := hclause
  have hnames : ∀ op ∈ comparisons, (FilterFlag.clause op).name = "--eq" → op = .equals := by
    decide
  obtain rfl : operator = .equals := hnames _ hop (congrArg Prod.fst hentry).symm
  cases hentry
  rw [splitAssignment_null] at hassigned
  cases hassigned
  obtain ⟨operand, more, hoperand, -, hmore⟩ := List.forall₂_cons_left_iff.mp hoperands
  refine ⟨_, List.mem_cons_self, rfl, operand, ?_, fun hliteral => ?_⟩
  · rw [hmore]
    exact List.mem_cons_self
  · exact hoperand.mp hliteral .null rfl

end ContentGateway.Command
