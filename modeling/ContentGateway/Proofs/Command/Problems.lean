import Mathlib
import ContentGateway.Proofs.Command.Operands
import ContentGateway.Proofs.Json.Limit

/-!
# Problems with what is typed

What is typed for a query is read in steps, and each step has its own complaint: a limit that is no
whole number is a mistake, and an assignment without a field, an operand that has to be a number and
is none, and an order of too many words are problems. All of these are reported. Two things pass
every step without such a complaint. A value that is nothing but a divider is dropped, and of the
nothing that is left no clause and no expression can be made. And a whole number with more digits
than are exchanged with text is no flaw of a JSON text, so it is neither read nor kept as it was
typed. Both end the program with a fault that it does not report.
-/

namespace ContentGateway.Command

/-! ## Reading one value -/

/-- How many digits the whole number has for which a text is given up, if there is one. -/
def tooLong? (s : String) : Option ℕ :=
  match Json.read s with
  | .error (.digitLimit n) => some n
  | _ => none

/-- A text that is given up for a number has that many digits in a row. -/
theorem hasRun_of_tooLong {s : String} {n : ℕ} (h : tooLong? s = some n) :
    Json.HasRun n s.toList := by
  rw [tooLong?] at h
  split at h
  · next hread => exact Json.hasRun_of_read (Option.some.inj h ▸ hread)
  · cases h

/-- A whole number with more digits than the limit is one for which its text is given up. -/
theorem tooLong_of_isWhole {digits : List Char} (hdigits : Json.IsWhole digits)
    (hlong : Decimal.digitLimit < digits.length) :
    tooLong? (String.ofList digits) = some digits.length := by
  have hread := Json.read_tooLong false hdigits hlong
  rw [Json.signOf, if_neg Bool.false_ne_true, List.nil_append] at hread
  rw [tooLong?, hread]

/-- A text is read as JSON or kept as it is, unless it is given up for a number. -/
theorem parseValue_cases (s : String) :
    (tooLong? s = none ∧ ∃ v, parseValue s = .ok v ∧
      (Json.read s = .ok v ∨ (∃ flaw, Json.read s = .error (.flawed flaw)) ∧ v = .text s)) ∨
    ∃ n, tooLong? s = some n ∧ parseValue s = .error (.digitLimit (some n)) := by
  rw [tooLong?, parseValue]
  cases Json.read s with
  | ok v => exact .inl ⟨rfl, v, rfl, .inl rfl⟩
  | error stop =>
    cases stop with
    | flawed flaw => exact .inl ⟨rfl, .text s, rfl, .inr ⟨⟨flaw, rfl⟩, rfl⟩⟩
    | digitLimit n => exact .inr ⟨n, rfl, rfl⟩

/-- Data is read, or has a problem that is reported, unless it is given up for a number. -/
theorem readData_cases (s flag input : String) :
    (∃ v, readData (.text s) flag input = .ok v) ∨
    (∃ message, readData (.text s) flag input = .error (invalid message)) ∨
    ∃ n, tooLong? (if s = "-" then input else s) = some n ∧
      readData (.text s) flag input = .error (.digitLimit (some n)) := by
  rw [tooLong?, readData]
  cases Json.read (if s = "-" then input else s) with
  | ok v => exact .inl ⟨v, rfl⟩
  | error stop =>
    cases stop with
    | flawed flaw => exact .inr (.inl ⟨_, rfl⟩)
    | digitLimit n => exact .inr (.inr ⟨n, rfl, rfl⟩)

/-- Of several texts the first that is given up decides. By induction on the texts. -/
theorem mapM_parseValue_eq_error {typed : List String} {f : Fault} :
    typed.mapM parseValue = .error f ↔
      ∃ n, typed.findSome? tooLong? = some n ∧ f = .digitLimit (some n) := by
  induction typed with
  | nil => exact iff_of_false (fun h => nomatch h) (fun ⟨_, h, _⟩ => nomatch h)
  | cons s typed ih =>
    rw [List.mapM_cons, List.findSome?_cons]
    rcases parseValue_cases s with ⟨hnone, v, hv, -⟩ | ⟨n, hn, hv⟩
    · rw [hnone, hv, ← ih]
      cases typed.mapM parseValue with
      | error e => exact Iff.rfl
      | ok vs => exact iff_of_false nofun nofun
    · rw [hn, hv]
      constructor
      · intro h
        cases h
        exact ⟨n, rfl, rfl⟩
      · rintro ⟨m, hm, rfl⟩
        cases hm
        rfl

/-! ## Operands -/

section Operand

variable {op : Operator} {s : String} {f : Fault}

/-- A number is refused with a problem, or with what ends reading a value. -/
theorem parseNumber_error (h : parseNumber op s = .error f) :
    (∃ message, f = invalid message) ∨ parseValue s = .error f := by
  rcases bind_eq_error.mp h with hvalue | ⟨v, -, h⟩
  · exact .inr hvalue
  · cases v with
    | int i => cases h
    | float x => cases h
    | _ =>
      cases h
      exact .inl ⟨_, rfl⟩

/-- An operand that cannot be taken has a problem that is reported, or is given up for a number. -/
theorem parseOperand_error (h : parseOperand op s = .error f) : (∃ message, f = invalid message) ∨
    op ∈ comparisons ∧ (operandTexts op s).mapM parseValue = .error f := by
  cases op with
  | equals | notEquals => exact .inr ⟨by simp [comparisons], mapM_singleton_eq_error.mpr h⟩
  | greaterThan | greaterOrEqual | lessThan | lessOrEqual =>
    refine (parseNumber_error h).imp_right fun hvalue => ⟨by simp [comparisons], ?_⟩
    exact mapM_singleton_eq_error.mpr hvalue
  | isIn =>
    rcases bind_eq_error.mp h with hvalues | ⟨vs, -, h⟩
    · exact .inr ⟨by simp [comparisons], parseList_eq s ▸ hvalues⟩
    · cases h
  | contains | startsWith | endsWith | other _ => cases h

/-- What ends reading one of the operands ends reading them all. -/
theorem parseOperand_of_error (hop : op ∈ comparisons)
    (h : (operandTexts op s).mapM parseValue = .error f) : parseOperand op s = .error f := by
  cases op with
  | equals | notEquals => exact mapM_singleton_eq_error.mp h
  | greaterThan | greaterOrEqual | lessThan | lessOrEqual =>
    exact bind_eq_error.mpr (.inl (mapM_singleton_eq_error.mp h))
  | isIn => exact bind_eq_error.mpr (.inl (parseList_eq s ▸ h))
  | contains | startsWith | endsWith | other _ => simp [comparisons] at hop

/-- What is typed for a value has a text. -/
theorem parseValue_hasText {v : Value} (h : parseValue s = .ok v) : v.HasText := by
  rcases parseValue_cases s with ⟨-, w, hw, hread⟩ | ⟨n, -, herror⟩
  · cases h.symm.trans hw
    rcases hread with hread | ⟨-, rfl⟩
    · exact (Json.read_isJson hread).render_ok
    · exact (Value.IsShowable.text s).render_ok
  · cases h.symm.trans herror

/-- What an operator makes of a text can be shown, and for a membership it is a list of what can. -/
theorem parseOperand_hasText {v : Value} (h : parseOperand op s = .ok v) :
    v.HasText ∧ (op = .isIn → ∃ vs, v = .list vs ∧ ∀ w ∈ vs, w.HasText) := by
  cases op with
  | equals | notEquals => exact ⟨parseValue_hasText h, nofun⟩
  | greaterThan | greaterOrEqual | lessThan | lessOrEqual =>
    exact ⟨parseValue_hasText (parseValue_of_parseNumber h).1, nofun⟩
  | isIn =>
    obtain ⟨vs, hvs, h⟩ := bind_eq_ok.mp h
    cases h
    rw [parseList_eq] at hvs
    have hitems : ∀ w ∈ vs, w.HasText := by
      intro w hw
      obtain ⟨part, -, hpart⟩ := mapM_of_mem hvs hw
      exact parseValue_hasText hpart
    exact ⟨Value.render_list_ok fun w hw => hitems w hw .quoted, fun _ => ⟨vs, rfl, hitems⟩⟩
  | contains | startsWith | endsWith | other _ =>
    cases h
    exact ⟨(Value.IsShowable.text s).render_ok, nofun⟩

end Operand

/-! ## One flag -/

/-- What is no assignment is refused with a problem. -/
theorem splitAssignment_error {s : String} {f : Fault} (h : splitAssignment s = .error f) :
    ∃ message, f = invalid message := by
  rw [splitAssignment] at h
  split at h
  · cases h
  · cases h
    exact ⟨_, rfl⟩

namespace QueryFlag

/-- What a flag adds to the filter, if it is a filter flag. -/
def part (flag : QueryFlag) : Except Fault (Option FilterPart) :=
  match FilterFlag.ofName? flag.option.label with
  | none => .ok none
  | some kind => some <$> filterPart kind (Form.taken [flag.value])

/-- The faults that are not reported and with which adding a flag to the filter ends: nothing was
given for a clause, or an operand has a number that is too long. -/
inductive Breaks (flag : QueryFlag) : Fault → Prop
  | nothing {op : Operator} (kind : FilterFlag.ofName? flag.option.label = some (.clause op))
      (value : flag.value = "--") : Breaks flag (.misuse .noSuchMember)
  | digits {op : Operator} {field typed : String} {n : ℕ}
      (kind : FilterFlag.ofName? flag.option.label = some (.clause op)) (known : op ∈ comparisons)
      (assigned : splitAssignment flag.value = .ok (field, typed))
      (long : (operandTexts op typed).findSome? tooLong? = some n) :
      Breaks flag (.digitLimit (some n))

/-- Whether a flag asks for an expression and was given nothing. -/
def IsBareRaw (flag : QueryFlag) : Prop :=
  FilterFlag.ofName? flag.option.label = some .raw ∧ flag.value = "--"

variable {flag : QueryFlag}

/-- A flag that cannot be added has a problem that is reported, or breaks off. -/
theorem isProblem_or_breaks {f : Fault} (h : flag.part = .error f) :
    (∃ message, f = invalid message) ∨ flag.Breaks f := by
  rw [part] at h
  split at h
  · cases h
  next kind hkind =>
  rw [Form.taken_singleton, map_eq_pure_bind] at h
  rcases bind_eq_error.mp h with h | ⟨part, -, h⟩
  swap
  · cases h
  cases kind with
  | raw => cases h
  | clause op =>
    split at h
    · next hvalue =>
      cases h
      exact .inr (.nothing hkind hvalue)
    rcases bind_eq_error.mp h with hassigned | ⟨⟨field, typed⟩, hassigned, h⟩
    · exact .inl (splitAssignment_error hassigned)
    rcases bind_eq_error.mp h with hoperand | ⟨v, -, h⟩
    · refine (parseOperand_error hoperand).imp_right ?_
      rintro ⟨hop, hvalues⟩
      obtain ⟨n, hn, rfl⟩ := mapM_parseValue_eq_error.mp hvalues
      exact .digits hkind hop hassigned hn
    · cases h

/-- A flag that breaks off is not added. -/
theorem Breaks.part_eq {f : Fault} (h : flag.Breaks f) : flag.part = .error f := by
  cases h with
  | nothing hkind hvalue =>
    rw [part, hkind, Form.taken_singleton, if_pos hvalue]
    rfl
  | digits hkind hop hassigned hlong =>
    -- a divider assigns nothing, so the value is taken as it is
    have hvalue : flag.value ≠ "--" := by
      intro hvalue
      rw [hvalue] at hassigned
      cases hassigned
    have hoperand := parseOperand_of_error hop (mapM_parseValue_eq_error.mpr ⟨_, hlong, rfl⟩)
    rw [part, hkind, Form.taken_singleton, if_neg hvalue]
    simp only [filterPart, hassigned, bind, Except.bind, hoperand]
    rfl

theorem Breaks.unreported {f : Fault} (h : flag.Breaks f) : Failure.report? f = none := by
  cases h <;> rfl

/-- A flag that breaks off was given nothing, or a run of digits that is too long. -/
theorem Breaks.value_cases {f : Fault} (h : flag.Breaks f) :
    flag.value = "--" ∨ ∃ n, Json.HasRun n flag.value.toList := by
  cases h with
  | nothing _ hvalue => exact .inl hvalue
  | @digits op field typed n _ _ hassigned hlong =>
    obtain ⟨part, hpart, hn⟩ := List.exists_of_findSome?_eq_some hlong
    exact .inr ⟨n, (hasRun_of_tooLong hn).mono (infix_of_assigned hassigned hpart)⟩

/-- A flag for an expression that was given nothing adds an empty list. -/
theorem IsBareRaw.part_eq (h : flag.IsBareRaw) : flag.part = .ok (some (.raw (.list []))) := by
  rw [part, h.1, Form.taken_singleton, if_pos h.2]
  rfl

/-- What a flag adds can be written, or it is an expression and was given nothing. -/
theorem render_part {p : FilterPart} (h : flag.part = .ok (some p)) :
    (∃ text, p.render = .ok text) ∨ flag.IsBareRaw := by
  rw [part] at h
  split at h
  · cases h
  next kind hkind =>
  rw [Form.taken_singleton, map_eq_pure_bind] at h
  obtain ⟨p', hp, h⟩ := bind_eq_ok.mp h
  cases h
  cases kind with
  | raw =>
    split at hp
    · next hvalue => exact .inr ⟨hkind, hvalue⟩
    · cases hp
      exact .inl ⟨_, rfl⟩
  | clause op =>
    split at hp
    · cases hp
    obtain ⟨⟨field, typed⟩, -, hp⟩ := bind_eq_ok.mp hp
    obtain ⟨v, hv, hp⟩ := bind_eq_ok.mp hp
    cases hp
    obtain ⟨hshow, hlist⟩ := parseOperand_hasText hv
    exact .inl (Clause.render_ok (Value.IsShowable.text field).render_ok hshow hlist)

/-- A filter flag gives what it took. -/
theorem entry_of_filterFlag {kind : FilterFlag} {entry : String × Value}
    (hkind : FilterFlag.ofName? flag.option.label = some kind) (h : flag.entry = .ok entry) :
    entry = (flag.option.label, Form.taken [flag.value]) := by
  have htext : ∀ o ∈ Grammar.queryOptions, (FilterFlag.ofName? o.label).isSome →
      o.takes = .text := by decide
  have htakes := htext _ flag.known (by rw [hkind]; rfl)
  obtain ⟨v, hv, h⟩ := bind_eq_ok.mp h
  cases h
  rw [Form.optionValue.eq_def, htakes] at hv
  cases hv
  rfl

end QueryFlag

/-! ## All flags -/

/-- The filter is made of what the flags add, one by one. By induction on the flags. -/
theorem filterParts_entries {flags : List QueryFlag} {entries : List (String × Value)}
    (h : flags.mapM QueryFlag.entry = .ok entries) :
    filterParts entries = List.reduceOption <$> flags.mapM QueryFlag.part := by
  induction flags generalizing entries with
  | nil =>
    obtain rfl := mapM_nil_eq_ok.mp h
    rfl
  | cons flag flags ih =>
    obtain ⟨⟨name, v⟩, rest, hentry, hrest, rfl⟩ := mapM_cons_eq_ok.mp h
    obtain rfl : name = flag.option.label := (QueryFlag.entry_isTyped hentry).1
    rw [filterParts, List.mapM_cons, QueryFlag.part]
    cases hkind : FilterFlag.ofName? flag.option.label with
    | none =>
      dsimp only
      rw [ih hrest]
      cases flags.mapM QueryFlag.part <;> rfl
    | some kind =>
      cases QueryFlag.entry_of_filterFlag hkind hentry
      dsimp only
      rw [ih hrest]
      cases filterPart kind (Form.taken [flag.value]) with
      | error f => rfl
      | ok part => cases flags.mapM QueryFlag.part <;> rfl

/-- An order is none or can be written, or it is a problem that is reported. -/
theorem sortOrder_cases (v : Value) :
    (∃ order? text?, sortOrder v = .ok order? ∧ order?.mapM SortOrder.render = .ok text?) ∨
      ∃ message, sortOrder v = .error (invalid message) := by
  have hnone : ∃ order? text?, (.ok none : Except Fault (Option SortOrder)) = .ok order? ∧
      order?.mapM SortOrder.render = .ok text? := ⟨none, none, rfl, rfl⟩
  rw [sortOrder.eq_def]
  split
  · next s =>
    split
    · exact .inl hnone
    · rw [parseOrder]
      split
      · next field _ => exact .inl ⟨_, some (field ++ " " ++ "asc"), rfl, rfl⟩
      · next field direction _ =>
        split
        · exact .inl ⟨_, some (field ++ " " ++ direction), rfl, rfl⟩
        · exact .inr ⟨_, rfl⟩
      · exact .inr ⟨_, rfl⟩
  · exact .inl hnone

/-- A sort order is refused with a problem. -/
theorem sortOrder_error {v : Value} {f : Fault} (h : sortOrder v = .error f) :
    ∃ message, f = invalid message := by
  rcases sortOrder_cases v with ⟨order?, -, hok, -⟩ | ⟨message, herror⟩
  · cases h.symm.trans hok
  · exact ⟨message, Except.error.inj (h.symm.trans herror)⟩

/-- A sort order that was typed can be written. -/
theorem sortOrder_written {v : Value} {order? : Option SortOrder} (h : sortOrder v = .ok order?) :
    ∃ text?, order?.mapM SortOrder.render = .ok text? := by
  rcases sortOrder_cases v with ⟨_, text?, hok, hwritten⟩ | ⟨message, herror⟩
  · cases h.symm.trans hok
    exact ⟨text?, hwritten⟩
  · cases h.symm.trans herror

/-- The faults that are not reported and with which a query ends. Its flags are added one by one, up
to the first that breaks off. A flag for an expression that was given nothing is added, and found
out when the query is compiled, behind the order. -/
inductive Breaks (flags : List QueryFlag) : Fault → Prop
  | flag {entries : List (String × Value)} {front back : List QueryFlag} {flag : QueryFlag}
      {f : Fault} (readable : flags.mapM QueryFlag.entry = .ok entries)
      (split : flags = front ++ flag :: back) (added : ∀ g ∈ front, ∃ part, g.part = .ok part)
      (breaks : flag.Breaks f) : Breaks flags f
  | raw {entries : List (String × Value)} {order? : Option SortOrder}
      (readable : flags.mapM QueryFlag.entry = .ok entries)
      (added : ∀ g ∈ flags, ∃ part, g.part = .ok part)
      (ordered : sortOrder ((⟨entries, [], none⟩ : Arguments).value "--orderby") = .ok order?)
      (bare : ∃ g ∈ flags, g.IsBareRaw) : Breaks flags (.misuse .noSuchMember)

section Flags

variable {flags : List QueryFlag} {entries : List (String × Value)} {f : Fault}

theorem Breaks.unreported (h : Breaks flags f) : Failure.report? f = none := by
  cases h with
  | flag _ _ _ hflag => exact hflag.unreported
  | raw => rfl

/-- Where a query breaks off, a flag was given nothing, or a run of digits that is too long. -/
theorem Breaks.exists_value (h : Breaks flags f) :
    ∃ flag ∈ flags, flag.value = "--" ∨ ∃ n, Json.HasRun n flag.value.toList := by
  cases h with
  | flag _ hsplit _ hflag =>
    exact ⟨_, hsplit ▸ List.mem_append_right _ List.mem_cons_self, hflag.value_cases⟩
  | raw _ _ _ hbare =>
    obtain ⟨flag, hflag, -, hvalue⟩ := hbare
    exact ⟨flag, hflag, .inl hvalue⟩

/-- What flags add cannot be written exactly if one of them asks for an expression of nothing. -/
theorem render_parts_eq_error {parts : List (Option FilterPart)}
    (hparts : flags.mapM QueryFlag.part = .ok parts) :
    parts.reduceOption.mapM FilterPart.render = .error f ↔
      (∃ flag ∈ flags, flag.IsBareRaw) ∧ f = .misuse .noSuchMember := by
  have hbare : ∀ g, parts.reduceOption.mapM FilterPart.render = .error g →
      (∃ flag ∈ flags, flag.IsBareRaw) ∧ g = .misuse .noSuchMember := by
    intro g hg
    obtain ⟨p, hp, herror⟩ := mapM_error hg
    obtain ⟨flag, hflag, hpart⟩ := mapM_of_mem hparts (List.reduceOption_mem_iff.mp hp)
    rcases QueryFlag.render_part hpart with ⟨text, htext⟩ | hraw
    · cases herror.symm.trans htext
    · cases hpart.symm.trans hraw.part_eq
      cases herror
      exact ⟨⟨flag, hflag, hraw⟩, rfl⟩
  refine ⟨hbare f, ?_⟩
  rintro ⟨⟨flag, hflag, hraw⟩, rfl⟩
  cases htexts : parts.reduceOption.mapM FilterPart.render with
  | error g => rw [(hbare g htexts).2]
  | ok texts =>
    -- the expression of nothing is one of the members, and it cannot be written
    obtain ⟨part, hpart, heq⟩ := mapM_mem hparts hflag
    cases heq.symm.trans hraw.part_eq
    obtain ⟨text, -, htext⟩ := mapM_mem htexts (List.reduceOption_mem_iff.mpr hpart)
    cases htext

/-- Flags that ask for no query have a problem that is reported, or the first that cannot be added
breaks off. -/
theorem queryOf_error (hentries : flags.mapM QueryFlag.entry = .ok entries)
    (h : queryOf ⟨entries, [], none⟩ = .error f) :
    (∃ message, f = invalid message) ∨ Breaks flags f := by
  rcases bind_eq_error.mp h with hparts | ⟨parts, -, h⟩
  · rw [filterParts_entries hentries, map_eq_pure_bind] at hparts
    rcases bind_eq_error.mp hparts with hparts | ⟨_, -, hparts⟩
    · -- the first flag that cannot be added decides, whatever stands behind it
      obtain ⟨front, flag, back, hsplit, hfront, hflag⟩ := mapM_eq_error.mp hparts
      exact (flag.isProblem_or_breaks hflag).imp_right (.flag hentries hsplit hfront)
    · cases hparts
  rcases bind_eq_error.mp h with horder | ⟨order, -, h⟩
  · exact .inl (sortOrder_error horder)
  · cases h

/-- A query that flags ask for compiles, unless one of them asks for an expression of nothing. -/
theorem compile_error (hentries : flags.mapM QueryFlag.entry = .ok entries) {q : Query}
    (hq : queryOf ⟨entries, [], none⟩ = .ok q) (h : q.compile = .error f) : Breaks flags f := by
  obtain ⟨hparts, horder, -⟩ := queryOf_eq_ok.mp hq
  obtain ⟨text?, hwritten⟩ := sortOrder_written horder
  rw [filterParts_entries hentries, map_eq_pure_bind] at hparts
  obtain ⟨parts, hadded, hparts⟩ := bind_eq_ok.mp hparts
  have hreduced : parts.reduceOption = q.parts := Except.ok.inj hparts
  cases htexts : q.parts.mapM FilterPart.render with
  | error g =>
    cases (Query.compile_of_mapM_error htexts).symm.trans h
    rw [← hreduced] at htexts
    obtain ⟨hbare, rfl⟩ := (render_parts_eq_error hadded).mp htexts
    exact .raw hentries (fun g hg => (mapM_mem hadded hg).imp fun _ h => h.2) horder hbare
  | ok texts =>
    obtain ⟨fields, hcompiled⟩ := Query.compile_ok
      (fun part hpart => (mapM_mem htexts hpart).imp fun _ h => h.2) fun order ho => by
        rw [ho] at hwritten
        obtain ⟨text, htext, -⟩ := bind_eq_ok.mp hwritten
        exact ⟨text, htext⟩
    cases h.symm.trans hcompiled

/-- Flags that ask for no parameters have a problem that is reported, or break off. -/
theorem isProblem_or_breaks (hentries : flags.mapM QueryFlag.entry = .ok entries)
    (h : parametersOf ⟨entries, [], none⟩ = .error f) :
    (∃ message, f = invalid message) ∨ Breaks flags f := by
  rcases bind_eq_error.mp h with hq | ⟨q, hq, h⟩
  · exact queryOf_error hentries hq
  · exact .inr (compile_error hentries hq h)

/-- Flags that break off ask for no parameters. -/
theorem Breaks.parametersOf (h : Breaks flags f) : ∃ entries,
    flags.mapM QueryFlag.entry = .ok entries ∧
      Command.parametersOf ⟨entries, [], none⟩ = .error f := by
  cases h with
  | @flag entries front back flag _ hentries hsplit hfront hflag =>
    have hparts := mapM_eq_error.mpr ⟨front, flag, back, hsplit, hfront, hflag.part_eq⟩
    have hfilter : filterParts entries = .error f := by
      rw [filterParts_entries hentries, hparts]
      rfl
    exact ⟨entries, hentries, bind_eq_error.mpr (.inl (bind_eq_error.mpr (.inl hfilter)))⟩
  | @raw entries order? hentries hadded horder hbare =>
    obtain ⟨parts, hparts⟩ := mapM_ok hadded
    have hfilter : filterParts entries = .ok parts.reduceOption := by
      rw [filterParts_entries hentries, hparts]
      rfl
    have hq : queryOf ⟨entries, [], none⟩ = .ok ⟨parts.reduceOption, order?, _, _, _⟩ :=
      queryOf_eq_ok.mpr ⟨hfilter, horder, rfl, rfl, rfl⟩
    have htexts := (render_parts_eq_error hparts).mpr ⟨hbare, rfl⟩
    exact ⟨entries, hentries,
      bind_eq_error.mpr (.inr ⟨_, hq, Query.compile_of_mapM_error htexts⟩)⟩

end Flags

/-! ## The program -/

/-- The ends of a query that are reported: what it compiles to is printed, or a problem is, or a
mistake is complained about. -/
inductive IsReported (flags : List QueryFlag) : Run Ending → Prop
  | compiled {entries : List (String × Value)} {fields : Fields} {s : String} {tape : Tape}
      (readable : flags.mapM QueryFlag.entry = .ok entries)
      (compiles : parametersOf ⟨entries, [], none⟩ = .ok fields)
      (shown : Json.read s = .ok (.dict fields)) :
      IsReported flags ⟨.ok (.exit 0), [.printed s], tape⟩
  | problem {entries : List (String × Value)} {message s : String} {tape : Tape}
      (readable : flags.mapM QueryFlag.entry = .ok entries)
      (fails : parametersOf ⟨entries, [], none⟩ = .error (invalid message))
      (shown : Json.read s = .ok (.dict [("error", .text message)])) :
      IsReported flags ⟨.ok (.exit 1), [.printed s], tape⟩
  | mistake {message : String} {tape : Tape}
      (refused : readArguments ("query" :: flags.map QueryFlag.argument) =
        .error (.mistake Grammar.query message)) :
      IsReported flags ⟨.ok (.exit 2), [.complained
        (Grammar.query.usage ++ Grammar.query.program ++ ": error: " ++ message ++ "\n")], tape⟩

/-- An end that is reported is not raised. -/
theorem IsReported.not_raised {flags : List QueryFlag} {r : Run Ending} (h : IsReported flags r)
    (f : Fault) : r.result ≠ .ok (.raised f) := by
  cases h <;> exact nofun

section Program

variable (flags : List QueryFlag) (env : Environment) (input : String) (terminal : Bool)
  (tape : Tape)

/-- A query that breaks off shows nothing. -/
theorem run_of_breaks {flags : List QueryFlag} {f : Fault} (h : Breaks flags f) :
    run (showing flags env input terminal) tape = ⟨.ok (.raised f), [], tape⟩ := by
  obtain ⟨entries, hentries, herror⟩ := h.parametersOf
  rw [run_query_error env input terminal tape hentries herror]
  exact concluding_raised terminal rfl h.unreported

/-- A query is reported or breaks off. -/
theorem isReported_or_breaks :
    IsReported flags (run (showing flags env input terminal) tape) ∨ ∃ f, Breaks flags f := by
  cases hentries : flags.mapM QueryFlag.entry with
  | error halt =>
    obtain ⟨message, hmessage⟩ := readArguments_query_error hentries
    refine .inl ?_
    rw [run, showing, hmessage]
    exact .mistake hmessage
  | ok entries =>
    cases hfields : parametersOf ⟨entries, [], none⟩ with
    | ok fields =>
      obtain ⟨s, hrun, hs⟩ := run_query_ok env input terminal tape hentries hfields
      rw [hrun]
      exact .inl (.compiled hentries hfields hs)
    | error f =>
      rcases isProblem_or_breaks hentries hfields with ⟨message, rfl⟩ | hbreaks
      · have hfail : (Job.fail (invalid message) : Job Unit) tape =
            ⟨.error (invalid message), [], tape⟩ := rfl
        obtain ⟨s, hrun, hs⟩ := concluding_problem terminal hfail
        rw [run_query_error env input terminal tape hentries hfields, hrun]
        exact .inl (.problem hentries hfields hs)
      · exact .inr ⟨f, hbreaks⟩

/-- A query is reported if no flag is given nothing, or a run of digits that is too long. -/
theorem isReported_of_short {flags : List QueryFlag} (hdivider : ∀ flag ∈ flags, flag.value ≠ "--")
    (hshort : ∀ flag ∈ flags, ∀ n, ¬ Json.HasRun n flag.value.toList) :
    IsReported flags (run (showing flags env input terminal) tape) := by
  refine (isReported_or_breaks flags env input terminal tape).resolve_right ?_
  rintro ⟨f, hbreaks⟩
  obtain ⟨flag, hflag, hvalue | ⟨n, hrun⟩⟩ := hbreaks.exists_value
  · exact hdivider flag hflag hvalue
  · exact hshort flag hflag n hrun

/-- A query is reported exactly if it does not break off, and where it does it ends with the fault
and shows nothing. A value is what its text is in JSON, or the text if it is no JSON, and data is
read or has a problem that is reported, unless the text is given up for a run of its digits. -/
theorem run_showing_reported (text label : String) :
    (IsReported flags (run (showing flags env input terminal) tape) ↔ ∀ f, ¬ Breaks flags f) ∧
    (∀ f, run (showing flags env input terminal) tape = ⟨.ok (.raised f), [], tape⟩ ↔
      Breaks flags f) ∧
    ((∃ v, parseValue text = .ok v ∧ (Json.read text = .ok v ∨
        (∃ flaw, Json.read text = .error (.flawed flaw)) ∧ v = .text text)) ∨
      ∃ n, Json.HasRun n text.toList ∧ parseValue text = .error (.digitLimit (some n))) ∧
    ((∃ v, readData (.text text) label input = .ok v) ∨
      (∃ message, readData (.text text) label input = .error (invalid message)) ∨
      ∃ n, Json.HasRun n (if text = "-" then input else text).toList ∧
        readData (.text text) label input = .error (.digitLimit (some n))) := by
  have hends := isReported_or_breaks flags env input terminal tape
  refine ⟨⟨fun h f hf => ?_, fun h => ?_⟩, fun f => ⟨fun hraised => ?_, fun hf => ?_⟩, ?_, ?_⟩
  · refine h.not_raised f ?_
    rw [run_of_breaks env input terminal tape hf]
  · exact hends.resolve_right fun ⟨f, hf⟩ => h f hf
  · rcases hends with h | ⟨g, hg⟩
    · exact absurd (congrArg Run.result hraised) (h.not_raised f)
    · rw [run_of_breaks env input terminal tape hg] at hraised
      cases hraised
      exact hg
  · exact run_of_breaks env input terminal tape hf
  · rcases parseValue_cases text with ⟨-, hread⟩ | ⟨n, hn, herror⟩
    · exact .inl hread
    · exact .inr ⟨n, hasRun_of_tooLong hn, herror⟩
  · rcases readData_cases text label input with hv | hproblem | ⟨n, hn, herror⟩
    · exact .inl hv
    · exact .inr (.inl hproblem)
    · exact .inr (.inr ⟨n, hasRun_of_tooLong hn, herror⟩)

end Program

/-- The flag for equality with a value. -/
def equality (value : String) : QueryFlag := @filterFlag (.clause .equals) (by decide) value

/-- The flag for equality is found by its label. -/
theorem ofName_equality (value : String) :
    FilterFlag.ofName? (equality value).option.label = some (.clause .equals) := by
  have hname : FilterFlag.ofName? "--eq" = some (.clause .equals) := by decide
  exact hname

/-- A flag with nothing for its clause breaks off. -/
theorem breaks_divider : Breaks [equality "--"] (.misuse .noSuchMember) := by
  have hentries : [equality "--"].mapM QueryFlag.entry = .ok [("--eq", .list [])] := rfl
  have hsplit : [equality "--"] = [] ++ equality "--" :: [] := rfl
  exact .flag hentries hsplit (List.forall_mem_nil _) (.nothing (ofName_equality _) rfl)

/-- A flag with an operand that is given up breaks off. -/
theorem breaks_tooLong {typed : String} {n : ℕ} (h : tooLong? typed = some n) :
    Breaks [equality ("a" ++ "=" ++ typed)] (.digitLimit (some n)) := by
  have hvalue : "a" ++ "=" ++ typed ≠ "--" := by
    intro hvalue
    have hmem : 'a' ∈ ("a" ++ "=" ++ typed).toList := by simp
    rw [hvalue] at hmem
    simp at hmem
  have hentry : (equality ("a" ++ "=" ++ typed)).entry = .ok _ := QueryFlag.entry_text rfl hvalue
  have hentries := mapM_cons_eq_ok.mpr ⟨_, [], hentry, mapM_nil_eq_ok.mpr rfl, rfl⟩
  have hsplit : [equality ("a" ++ "=" ++ typed)] =
      [] ++ equality ("a" ++ "=" ++ typed) :: [] := rfl
  have hne : "a" ≠ "" := by simp
  have hassigned := splitAssignment_ok hne (by simp) typed
  have hlong : (operandTexts .equals typed).findSome? tooLong? = some n := by
    show [typed].findSome? tooLong? = some n
    rw [List.findSome?_cons, h]
  exact .flag hentries hsplit (List.forall_mem_nil _)
    (.digits (ofName_equality _) (by simp [comparisons]) hassigned hlong)

/-- A row of ones of that length is given up. -/
theorem tooLong_ones {n : ℕ} (h : Decimal.digitLimit < n) :
    tooLong? (String.ofList (List.replicate n '1')) = some n := by
  have hlength : (List.replicate n '1').length = n := List.length_replicate
  have hwhole : Json.IsWhole (List.replicate n '1') := by
    obtain ⟨k, rfl⟩ := Nat.exists_eq_add_of_lt h
    refine ⟨by simp, fun c hc => ?_, .inl (by simp [List.replicate_succ])⟩
    rw [List.eq_of_mem_replicate hc]
    rfl
  have htooLong := tooLong_of_isWhole hwhole (hlength.symm ▸ h)
  rwa [hlength] at htooLong

/-- Two flags that are not reported: nothing for a clause, and a whole number that is too long. -/
theorem run_showing_reported_not : ∃ typed : String,
    run (showing [equality "--"] [] "" false) [] =
        ⟨.ok (.raised (.misuse .noSuchMember)), [], []⟩ ∧
      run (showing [equality ("a" ++ "=" ++ typed)] [] "" false) [] =
        ⟨.ok (.raised (.digitLimit (some (Decimal.digitLimit + 1)))), [], []⟩ := by
  have htooLong := tooLong_ones (Nat.lt_succ_self Decimal.digitLimit)
  exact ⟨_, ((run_showing_reported _ _ _ _ _ "" "").2.1 _).mpr breaks_divider,
    ((run_showing_reported _ _ _ _ _ "" "").2.1 _).mpr (breaks_tooLong htooLong)⟩

end ContentGateway.Command
