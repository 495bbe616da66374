import TableSchema.Proofs.Rule.Breaking
import TableSchema.Proofs.Schema.Acceptance
import TableSchema.Proofs.Schema.RoundTrip

namespace TableSchema.Schema

open Grammar TableSchema.Text

-- A part of the parser ends in a fault that does not say what is wrong.
def Parse.IsBroken {α : Type} (parse : Parse α) : Prop :=
  ∃ fault, parse.result = .error fault ∧ fault.isDiagnosed = false

namespace Parse.IsBroken

variable {α β : Type} {first : Parse α} {next : α → Parse β}

theorem bind (h : first.IsBroken) (next : α → Parse β) : (first >>= next).IsBroken := by
  obtain ⟨fault, hfault, hd⟩ := h
  exact ⟨fault, Parse.result_bind_of_error hfault next, hd⟩

theorem bind_of_ok {value : α} (hfirst : first.result = .ok value) (h : (next value).IsBroken) :
    (first >>= next).IsBroken := by
  obtain ⟨fault, hfault, hd⟩ := h
  exact ⟨fault, by rw [Parse.result_bind_of_ok hfirst, hfault], hd⟩

theorem note_bind {step : Step} {next : Unit → Parse β} (h : (next ()).IsBroken) :
    (Parse.note step >>= next).IsBroken :=
  bind_of_ok rfl h

-- A part that ends like a later one.
theorem of_later {later : Parse β} (h : later.IsBroken)
    (hread : ∀ fault, later.result = .error fault → first.result = .error fault) :
    first.IsBroken := by
  obtain ⟨fault, hfault, hd⟩ := h
  exact ⟨fault, hread fault hfault, hd⟩

end Parse.IsBroken

/-! Rules -/

theorem buildRule_isBroken {name : Rule.Name} {arguments : List Argument}
    (h : Rule.Breaking name arguments) (token : Token) : (buildRule token name arguments).IsBroken := by
  obtain ⟨cause, hbuild, hcause⟩ := h.exists_fault
  simp only [buildRule, hbuild]
  cases cause with
  | arguments fault => cases hcause
  | unorderedBounds => exact ⟨.unorderedBounds, rfl, rfl⟩
  | pattern text fault =>
      cases fault with
      | malformed cause position => cases hcause
      | _ => exact ⟨.patternLimit _, rfl, rfl⟩

-- A call that breaks the parser has arguments, so that it ends with a parenthesis.
theorem ruleAt_isBroken {tokens : List Token} {call more : List Terminal} {name : Rule.Name}
    {found : List Argument} (hcall : IsCall call name found) (hbreaking : Rule.Breaking name found)
    (htokens : tokens.map Token.terminal = call ++ more) :
    ∃ token rest, tokens = token :: rest ∧ token.kind = .word ∧ (ruleAt token rest).IsBroken := by
  cases hcall with
  | plain => exact absurd rfl hbreaking.arguments_ne_nil
  | empty => exact absurd rfl hbreaking.arguments_ne_nil
  | @applied inner _ _ opening closing hinner =>
      obtain ⟨token, rest, rfl, hhead, hrest⟩ := List.map_eq_cons_iff.mp htokens
      have hword : token.kind = .word := congrArg Terminal.kind hhead
      have hname : token.text = name.text := congrArg Terminal.text hhead
      refine ⟨token, rest, rfl, hword, ?_⟩
      simp only [ruleAt, hword, ne_eq, not_true_eq_false, if_false, hname, Rule.Name.ofText?_text]
      have hbehind : rest.map Token.terminal =
          ⟨.opening, opening⟩ :: (inner ++ ⟨.closing, closing⟩ :: more) := by
        simpa using hrest
      exact .bind_of_ok (arguments_of_isArguments hinner hbehind)
        ((buildRule_isBroken hbreaking token).bind _)

theorem isBroken_of_tooDeep {α : Type} {parse : Parse α} (h : parse.result = .error .tooDeep) :
    parse.IsBroken :=
  ⟨.tooDeep, h, rfl⟩

theorem alternatives_isBroken {left : Rule} {call more : List Terminal} {tokens : List Token}
    {name : Rule.Name} {found : List Argument} (hcall : IsCall call name found)
    (hbreaking : Rule.Breaking name found)
    (htokens : tokens.map Token.terminal = ⟨.word, "or"⟩ :: (call ++ more)) :
    (alternatives left tokens).IsBroken := by
  obtain ⟨token, others, rfl, ht, hothers⟩ := List.map_eq_cons_iff.mp htokens
  obtain ⟨next, rest, rfl, -, hbroken⟩ := ruleAt_isBroken hcall hbreaking hothers
  simp only [alternatives, isOr_iff.mpr ht, if_true]
  exact hbroken.bind _

/-! Expressions -/

-- An expression with an alternative that breaks the parser.
theorem rulesFrom_isBroken_of_alternative {left call more : List Terminal} {rule : Rule}
    {tokens : List Token} {name : Rule.Name} {found : List Argument} (hleft : IsExpression left rule)
    (hcall : IsCall call name found) (hbreaking : Rule.Breaking name found)
    (htokens : tokens.map Token.terminal = left ++ ⟨.word, "or"⟩ :: (call ++ more)) :
    (rulesFrom tokens).IsBroken := by
  have hor : Begins EndsCall (⟨.word, "or"⟩ :: (call ++ more)) := by simp [Begins, EndsCall]
  rcases rulesFrom_of_isExpression hleft hor htokens with hdeep | ⟨rest, hrest, hread⟩
  · exact isBroken_of_tooDeep hdeep
  · exact (alternatives_isBroken hcall hbreaking hrest).of_later hread

theorem rulesFrom_isBroken_of_call {call more : List Terminal} {tokens : List Token}
    {name : Rule.Name} {found : List Argument} (hcall : IsCall call name found)
    (hbreaking : Rule.Breaking name found) (htokens : tokens.map Token.terminal = call ++ more) :
    (rulesFrom tokens).IsBroken := by
  obtain ⟨token, rest, rfl, hword, hbroken⟩ := ruleAt_isBroken hcall hbreaking htokens
  simp only [rulesFrom, hword, if_true]
  exact hbroken.bind _

-- Whole expressions are read first, or break the parser themselves.
theorem rulesFrom_isBroken_of_isExpressions {front more : List Terminal} {rules : List Rule}
    {tokens : List Token} (h : IsExpressions front rules) (hmore : Begins EndsExpression more)
    (hbroken : ∀ rest : List Token, rest.map Token.terminal = more → (rulesFrom rest).IsBroken)
    (htokens : tokens.map Token.terminal = front ++ more) : (rulesFrom tokens).IsBroken := by
  rcases rulesFrom_of_isExpressions h hmore htokens with hdeep | ⟨rest, hrest, hread⟩
  · exact isBroken_of_tooDeep hdeep
  · exact (hbroken rest hrest).of_later hread

theorem rulesFrom_isBroken {front call more : List Terminal} {tokens : List Token}
    {name : Rule.Name} {found : List Argument} (hopens : Opens front)
    (hcall : IsCall call name found) (hbreaking : Rule.Breaking name found)
    (htokens : tokens.map Token.terminal = front ++ (call ++ more)) :
    (rulesFrom tokens).IsBroken := by
  cases hopens with
  | expression h =>
      refine rulesFrom_isBroken_of_isExpressions h (begins_of_isCall hcall more) ?_ htokens
      exact fun rest hrest => rulesFrom_isBroken_of_call hcall hbreaking hrest
  | alternative h hleft =>
      have hbegins := begins_of_isExpression hleft (⟨.word, "or"⟩ :: (call ++ more))
      refine rulesFrom_isBroken_of_isExpressions h hbegins ?_ (by simpa using htokens)
      exact fun rest hrest => rulesFrom_isBroken_of_alternative hleft hcall hbreaking hrest

/-! Lines -/

theorem columnOf_isBroken {column colon : String} {front call more : List Terminal}
    {tokens : List Token} {name : Rule.Name} {found : List Argument} (hopens : Opens front)
    (hcall : IsCall call name found) (hbreaking : Rule.Breaking name found)
    (htokens : tokens.map Token.terminal =
      ⟨.word, column⟩ :: ⟨.colon, colon⟩ :: (front ++ (call ++ more))) :
    (columnOf tokens).IsBroken := by
  obtain ⟨first, others, rfl, hfirst, hothers⟩ := List.map_eq_cons_iff.mp htokens
  obtain ⟨second, tokens, rfl, hsecond, htokens⟩ := List.map_eq_cons_iff.mp hothers
  have hword : first.kind = .word := congrArg Terminal.kind hfirst
  have hcolon : second.kind = .colon := congrArg Terminal.kind hsecond
  simp only [columnOf, current, List.headD_cons, List.drop_succ_cons, List.drop_zero, hword, hcolon,
    ne_eq, not_true_eq_false, if_false]
  exact .note_bind ((rulesFrom_isBroken hopens hcall hbreaking htokens).bind _)

-- The columns before the broken line are read first, or break the parser themselves.
theorem columnsOf_isBroken {lines : List Line} {before after : List (List Terminal)}
    {broken : List Terminal} {columns : List Column} (hbefore : List.Forall₂ IsColumn before columns)
    (hbroken : ∀ tokens : List Token, tokens.map Token.terminal = broken →
      (columnOf tokens).IsBroken)
    (hlines : (lines.map fun line => line.tokens.map Token.terminal) = before ++ broken :: after) :
    (columnsOf lines).IsBroken := by
  rcases columnsOf_of_columns hbefore hlines with hdeep | ⟨rest, hrest, hread⟩
  · exact isBroken_of_tooDeep hdeep
  · obtain ⟨line, rest, rfl, hline, -⟩ := List.map_eq_cons_iff.mp hrest
    have hline : (columnsOf (line :: rest)).IsBroken := by
      rw [columnsOf]
      exact .note_bind ((hbroken _ hline).bind _)
    exact hline.of_later hread

-- A number of columns that is beyond the limit for numbers is not read.
theorem globalsOf_isBroken {tokens : List Token}
    (h : ¬CountWithinLimit (tokens.map Token.terminal)) : (globalsOf tokens).IsBroken := by
  simp only [CountWithinLimit, not_forall, Nat.not_le] at h
  obtain ⟨name, count, rest, htokens, hname, hdigits, hlimit⟩ := h
  obtain ⟨first, others, rfl, hfirst, hothers⟩ := List.map_eq_cons_iff.mp htokens
  obtain ⟨second, tokens, rfl, hsecond, -⟩ := List.map_eq_cons_iff.mp hothers
  have hkind : first.kind = .directive := congrArg Terminal.kind hfirst
  have htext : first.text = name := congrArg Terminal.text hfirst
  have hword : second.kind = .word := congrArg Terminal.kind hsecond
  have hcount : second.text = count := congrArg Terminal.text hsecond
  have hbroken : (totalOf second).IsBroken := by
    have hall : count.toList.all isAsciiDigit = true := List.all_eq_true.mpr hdigits
    have hne : count.toList.isEmpty = false := by
      cases hc : count.toList with
      | nil => simp [hc] at hlimit
      | cons => rfl
    simp only [totalOf, hword, hcount, hall, hne, hlimit]
    exact ⟨.totalTooLong _, rfl, rfl⟩
  simp only [globalsOf, current, List.headD_cons, isTotalColumns, hkind, htext, hname,
    beq_self_eq_true, Bool.and_self, if_true, List.drop_one, List.tail_cons]
  exact hbroken.bind _

/-! The whole text -/

-- A text breaks the parser at a total that is too long, and at each call that the
-- parser comes to and that breaks it.
theorem parse_isBroken_of_not_totalWithinLimit {text : String} (h : ¬TotalWithinLimit text) :
    (parse text).IsBroken := by
  simp only [TotalWithinLimit, not_forall] at h
  obtain ⟨first, hfirst, hlimit⟩ := h
  obtain ⟨rest, hlines⟩ := List.head?_eq_some_iff.mp hfirst
  obtain ⟨start, others, hl, rfl, -⟩ := List.map_eq_cons_iff.mp hlines
  simp only [parse, hl, schemaOf]
  exact .note_bind ((globalsOf_isBroken hlimit).bind _)

theorem parse_isBroken_of_reaches {text : String} {name : Rule.Name} {found : List Argument}
    (hlimit : TotalWithinLimit text) (h : Reaches text name found)
    (hbreaking : Rule.Breaking name found) : (parse text).IsBroken := by
  obtain ⟨hlines, hglobals, hbefore, hopens, hcall⟩ := h
  have hcount := hlimit _ (by rw [hlines]; rfl)
  obtain ⟨start, others, hl, hstart, hothers⟩ := List.map_eq_cons_iff.mp hlines
  have hcolumns := columnsOf_isBroken hbefore
    (fun _ htokens => columnOf_isBroken hopens hcall hbreaking htokens) hothers
  simp only [parse, hl, schemaOf]
  exact .note_bind (.bind_of_ok (globalsOf_complete hglobals hcount hstart) (hcolumns.bind _))

/-! Checked parts -/

-- A word has no white space around it.
theorem isColumnName_of_isWord {name : String} (h : IsWord name) : isColumnName name = true := by
  obtain ⟨hne, hword⟩ := h
  have hstrip : strip name.toList = name.toList :=
    trim_eq_self fun c hc => isBlank_of_isWordChar (hword c hc)
  have hempty : name.isEmpty = false := by
    simpa using hne
  simp [isColumnName, hstrip, hempty]

theorem checkedColumn_of_isColumn {text : String} {line : List Terminal} {column : Column}
    (hline : line ∈ terminals text) (h : IsColumn line column) :
    checkedColumn column.name column.rules column.directives = .ok column := by
  cases h with
  | @intro name colon mark expressions written rules directives =>
      have hword := (isWritable_of_mem_terminals hline ⟨.word, name⟩ (by simp)).word rfl
      rw [checkedColumn, if_pos (isColumnName_of_isWord hword)]

theorem one_le_of_isGlobals {first : List Terminal} {globals : Globals}
    (h : IsGlobals first globals) : 1 ≤ globals.total := by
  cases h with
  | intro _ htotal => exact htotal.positive

-- A part of a schema that is read from a line passes the checks of its kind, also
-- if the text is no schema.
structure PassesChecks (line : Line) : Prop where
  globals : ∀ globals, (globalsOf line.tokens).result = .ok globals → 1 ≤ globals.total
  column : ∀ column, (columnOf line.tokens).result = .ok column →
    checkedColumn column.name column.rules column.directives = .ok column

theorem passesChecks_of_mem_linesOf {text : String} {line : Line}
    (hline : line ∈ linesOf text.toList) : PassesChecks line := by
  have htokens : IsLine line.tokens := isLine_linesOf text.toList line hline
  constructor
  · intro globals h
    exact one_le_of_isGlobals (globalsOf_sound htokens h)
  · intro column h
    exact checkedColumn_of_isColumn (List.mem_map_of_mem hline) (columnOf_sound htokens h)

theorem checked_of_denotes {text : String} {schema : Schema} (h : Denotes text schema) :
    checked schema.total schema.hasHeader schema.permitEmpty schema.columns = .ok schema := by
  obtain ⟨first, lines, -, -, htotal, -⟩ := h.exists_lines
  have hpositive : ¬(schema.total : Int) < 1 := by omega
  rw [checked, if_neg hpositive, if_neg (by simp [Schema.total])]

/-! Answers of the parser -/

-- The parser answers with a schema that passes its checks, or with messages on
-- what is wrong with the text.
inductive Answers (text : String) : Prop
  | accepted {schema : Schema} (h : (parse text).result = .ok schema)
      (hchecked : checked schema.total schema.hasHeader schema.permitEmpty schema.columns = .ok schema) :
      Answers text
  | diagnosed {fault : ParseFault} (h : (parse text).result = .error fault)
      (hmessages : fault.messages ≠ []) (hschema : ∀ message ∈ fault.messages,
        message.severity = .schema) : Answers text

theorem not_answers_of_isBroken {text : String} (h : (parse text).IsBroken) : ¬Answers text := by
  obtain ⟨fault, hfault, hd⟩ := h
  rintro (⟨hschema, -⟩ | ⟨hother, hmessages, -⟩)
  · rw [hschema] at hfault
    cases hfault
  · obtain rfl := Except.error.inj (hfault.symm.trans hother)
    cases fault with
    | syntaxError => cases hd
    | rejected => cases hd
    | _ => exact hmessages rfl

theorem answers_of_diagnostics {text : String} {fault : ParseFault}
    (h : (parse text).result = .error fault) (hne : fault.diagnostics ≠ []) : Answers text := by
  refine .diagnosed h (by simpa [ParseFault.messages] using hne) ?_
  intro message hm
  obtain ⟨diagnostic, -, rfl⟩ := List.mem_map.mp hm
  rfl

-- The parser answers every text whose total is not too long, and in which it comes
-- to no call that breaks it and joins no alternatives that are too deep. What it
-- reads always passes the checks.
theorem parse_answers_iff (text : String) :
    (Answers text ↔ TotalWithinLimit text ∧
      (∀ name arguments, Reaches text name arguments → ¬Rule.Breaking name arguments) ∧
      ∀ rule, Joins text rule → rule.depth ≤ maxDepth) ∧
      ∀ line ∈ linesOf text.toList, PassesChecks line := by
  refine ⟨⟨fun h => ?_, fun ⟨hlimit, hcalls, hjoins⟩ => ?_⟩,
    fun line hline => passesChecks_of_mem_linesOf hline⟩
  · have hlimit : TotalWithinLimit text := by
      by_contra hlong
      exact not_answers_of_isBroken (parse_isBroken_of_not_totalWithinLimit hlong) h
    refine ⟨hlimit, fun name arguments hreaches hbreaking => ?_, fun rule hjoins => ?_⟩
    · exact not_answers_of_isBroken (parse_isBroken_of_reaches hlimit hreaches hbreaking) h
    · by_contra hdeep
      have hparse := parse_tooDeep hjoins (Nat.not_le.mp hdeep) hlimit
      exact not_answers_of_isBroken (isBroken_of_tooDeep hparse) h
  · cases hparse : (parse text).result with
    | ok schema => exact .accepted hparse (checked_of_denotes (denotes_of_parse hparse))
    | error fault =>
        rcases parse_fault_cases hlimit hparse with
          hsyntax | ⟨found, hne, rfl⟩ | ⟨name, arguments, cause, hreaches, hbuild, hcause⟩ |
            ⟨rule, hjoined, hdeep⟩
        · cases fault with
          | syntaxError diagnostic => exact answers_of_diagnostics hparse (by simp [ParseFault.diagnostics])
          | _ => cases hsyntax
        · exact answers_of_diagnostics hparse hne
        · exact absurd (Rule.breaking_iff.mpr ⟨cause, hbuild, hcause⟩) (hcalls _ _ hreaches)
        · exact absurd (hjoins rule hjoined) (Nat.not_le.mpr hdeep)

-- A repetition beyond the limit of patterns is neither accepted nor diagnosed.
theorem not_answers_of_largeRepetition :
    ¬Answers "@TotalColumns 1\nA: regex(\"a\x7b4294967296\x7d\")" := by
  have hparse : (parse "@TotalColumns 1\nA: regex(\"a\x7b4294967296\x7d\")").result =
      .error (.patternLimit .countTooLarge) := by cbv
  exact not_answers_of_isBroken ⟨_, hparse, rfl⟩

end TableSchema.Schema
