import TableSchema.Proofs.Rule.Arguments
import TableSchema.Proofs.Schema.Completeness

namespace TableSchema.Schema

open Grammar

-- A rule that is no alternative has arguments at most, and they are not deep.
theorem depth_le_of_isRule {call : List Terminal} {rule : Rule} (h : IsRule call rule) :
    rule.depth ≤ maxDepth := by
  obtain ⟨-, hbuild⟩ := h
  have hsingle := Rule.ne_or_of_build hbuild
  rw [Rule.depth]
  · split <;> decide
  · exact hsingle

/-! Where alternatives are joined -/

-- The terminals behind the colon of a column, up to a call that is joined to what
-- stands in front of it. The call is complete, so that the rule is known.
inductive JoinsIn : List Terminal → Rule → Prop
  | intro {front left right more : List Terminal} {rules : List Rule} {first second : Rule}
      (hfront : IsExpressions front rules) (hleft : IsExpression left first)
      (hright : IsRule right second) (hends : right.length = 1 → Begins EndsCall more) :
      JoinsIn (front ++ (left ++ ⟨.word, "or"⟩ :: (right ++ more))) (.or first second)

theorem JoinsIn.cons {first rest : List Terminal} {rule joined : Rule}
    (hfirst : IsExpression first rule) (h : JoinsIn rest joined) : JoinsIn (first ++ rest) joined := by
  cases h with
  | intro hfront hleft hright hends =>
      rw [← List.append_assoc]
      exact .intro (.cons hfirst hfront) hleft hright hends

-- The parser joins alternatives to a rule: all that stands in front of them is in order.
inductive Joins (text : String) : Rule → Prop
  | intro {first : List Terminal} {before after : List (List Terminal)} {globals : Globals}
      {columns : List Column} {column colon : String} {behind : List Terminal} {rule : Rule}
      (hlines : terminals text =
        first :: (before ++ (⟨.word, column⟩ :: ⟨.colon, colon⟩ :: behind) :: after))
      (hglobals : IsGlobals first globals) (hbefore : List.Forall₂ IsColumn before columns)
      (hjoins : JoinsIn behind rule) : Joins text rule

/-! Rules beyond the limit -/

theorem alternatives_tooDeep_of_join {left right : Rule} {call more : List Terminal}
    {tokens : List Token} (hright : IsRule call right)
    (hends : call.length = 1 → Begins EndsCall more) (hdeep : maxDepth < (Rule.or left right).depth)
    (htokens : tokens.map Token.terminal = ⟨.word, "or"⟩ :: (call ++ more)) :
    (alternatives left tokens).result = .error .tooDeep := by
  rw [alternatives_cons hright hends htokens]
  exact Parse.result_bind_of_error (join_of_lt_depth hdeep) _

-- Alternatives that are too deep stop the parser, at the last one or before it.
theorem alternatives_tooDeep {first rule : Rule} {tail more : List Terminal} {tokens : List Token}
    (h : IsTail first tail rule) (hmore : Begins EndsCall more) (hfirst : first.depth ≤ maxDepth)
    (hdeep : maxDepth < rule.depth) (htokens : tokens.map Token.terminal = tail ++ more) :
    (alternatives first tokens).result = .error .tooDeep := by
  induction h generalizing tokens with
  | nil => exact absurd hfirst (Nat.not_le.mpr hdeep)
  | @cons left other rule right rest hright htail ih =>
      rw [List.cons_append, List.append_assoc] at htokens
      have hends : Begins EndsCall (rest ++ more) := begins_append (begins_of_isTail htail) hmore
      rcases Nat.lt_or_ge maxDepth (Rule.or left other).depth with hearly | hdepth
      · exact alternatives_tooDeep_of_join hright (fun _ => hends) hearly htokens
      · have hrest := ih hdepth hdeep
          (@drop_of_map_eq tokens (⟨.word, "or"⟩ :: right) (rest ++ more) htokens)
        rw [alternatives_cons hright (fun _ => hends) htokens,
          Parse.result_bind_of_ok (join_of_depth_le hdepth)]
        exact Parse.result_bind_of_error hrest _

theorem rulesFrom_tooDeep_of_isExpression {front more : List Terminal} {rule : Rule}
    {tokens : List Token} (h : IsExpression front rule) (hmore : Begins EndsCall more)
    (hdeep : maxDepth < rule.depth) (htokens : tokens.map Token.terminal = front ++ more) :
    (rulesFrom tokens).result = .error .tooDeep := by
  obtain ⟨call, tail, first, rfl, hcall, htail⟩ := h.exists_tail
  rw [List.append_assoc] at htokens
  have hbehind : Begins EndsCall (tail ++ more) := begins_append (begins_of_isTail htail) hmore
  obtain ⟨token, tokens, behind, rfl, rfl, hword, htokens, hrule⟩ :=
    ruleAt_complete hcall htokens fun _ => hbehind
  have halternatives :=
    alternatives_tooDeep htail hmore (depth_le_of_isRule hcall) hdeep (drop_of_map_eq htokens)
  simp only [rulesFrom, hword, if_true]
  rw [Parse.result_bind_of_ok hrule]
  exact Parse.result_bind_of_error halternatives _

-- What stands behind an expression is read as alternatives to it, if it is not too deep.
theorem rulesFrom_of_isExpression {front more : List Terminal} {rule : Rule} {tokens : List Token}
    (h : IsExpression front rule) (hmore : Begins EndsCall more)
    (htokens : tokens.map Token.terminal = front ++ more) :
    (rulesFrom tokens).result = .error .tooDeep ∨ ∃ rest, rest.map Token.terminal = more ∧
      ∀ fault, (alternatives rule rest).result = .error fault →
        (rulesFrom tokens).result = .error fault := by
  rcases Nat.lt_or_ge maxDepth rule.depth with hdeep | hdepth
  · exact .inl (rulesFrom_tooDeep_of_isExpression h hmore hdeep htokens)
  · refine .inr ⟨_, drop_of_map_eq htokens, fun fault hfault => ?_⟩
    rw [rulesFrom_expression h hmore hdepth htokens]
    exact Parse.result_bind_of_error hfault _

-- What stands behind whole expressions is read, if none of them is too deep.
theorem rulesFrom_of_isExpressions {front more : List Terminal} {rules : List Rule}
    {tokens : List Token} (h : IsExpressions front rules) (hmore : Begins EndsExpression more)
    (htokens : tokens.map Token.terminal = front ++ more) :
    (rulesFrom tokens).result = .error .tooDeep ∨ ∃ rest, rest.map Token.terminal = more ∧
      ∀ fault, (rulesFrom rest).result = .error fault →
        (rulesFrom tokens).result = .error fault := by
  induction h generalizing tokens with
  | nil => exact .inr ⟨tokens, htokens, fun _ hfault => hfault⟩
  | @cons _ others rule _ hfirst hrest ih =>
      have hbegins : Begins EndsExpression (others ++ more) :=
        begins_append (begins_of_isExpressions hrest) hmore
      rw [List.append_assoc] at htokens
      rcases Nat.lt_or_ge maxDepth rule.depth with hdeep | hdepth
      · exact .inl (rulesFrom_tooDeep_of_isExpression hfirst (fun t ht => (hbegins t ht).1) hdeep
          htokens)
      · rw [rulesFrom_cons hfirst hbegins hdepth htokens]
        rcases ih (drop_of_map_eq htokens) with hlast | ⟨rest, hr, hlast⟩
        · exact .inl (Parse.result_bind_of_error hlast _)
        · exact .inr ⟨rest, hr, fun fault hfault => Parse.result_bind_of_error (hlast fault hfault) _⟩

theorem rulesFrom_tooDeep {terminals : List Terminal} {rule : Rule} {tokens : List Token}
    (h : JoinsIn terminals rule) (hdeep : maxDepth < rule.depth)
    (htokens : tokens.map Token.terminal = terminals) :
    (rulesFrom tokens).result = .error .tooDeep := by
  obtain @⟨front, left, right, more, rules, first, second, hfront, hleft, hright, hends⟩ := h
  have hor : Begins EndsCall (⟨.word, "or"⟩ :: (right ++ more)) := by simp [Begins, EndsCall]
  rcases rulesFrom_of_isExpressions hfront (begins_of_isExpression hleft _) htokens with
    hearly | ⟨rest, hrest, hread⟩
  · exact hearly
  rcases rulesFrom_of_isExpression hleft hor hrest with hearly | ⟨others, hothers, hjoined⟩
  · exact hread _ hearly
  · exact hread _ (hjoined _ (alternatives_tooDeep_of_join hright hends hdeep hothers))

theorem columnOf_tooDeep {column colon : String} {behind : List Terminal} {rule : Rule}
    {tokens : List Token} (h : JoinsIn behind rule) (hdeep : maxDepth < rule.depth)
    (htokens : tokens.map Token.terminal = ⟨.word, column⟩ :: ⟨.colon, colon⟩ :: behind) :
    (columnOf tokens).result = .error .tooDeep := by
  obtain ⟨first, others, rfl, hfirst, hothers⟩ := List.map_eq_cons_iff.mp htokens
  obtain ⟨second, tokens, rfl, hsecond, htokens⟩ := List.map_eq_cons_iff.mp hothers
  have hword : first.kind = .word := congrArg Terminal.kind hfirst
  have hcolon : second.kind = .colon := congrArg Terminal.kind hsecond
  simp only [columnOf, current, List.headD_cons, List.drop_succ_cons, List.drop_zero, hword, hcolon,
    ne_eq, not_true_eq_false, if_false, Parse.result_note_bind]
  exact Parse.result_bind_of_error (rulesFrom_tooDeep h hdeep htokens) _

-- A rule of expressions that is too deep is joined.
theorem joinsIn_of_mem {expressions more : List Terminal} {rules : List Rule} {rule : Rule}
    (h : IsExpressions expressions rules) (hmore : Begins EndsExpressions more)
    (hrule : rule ∈ rules) (hdeep : maxDepth < rule.depth) : JoinsIn (expressions ++ more) rule := by
  induction h with
  | nil => cases hrule
  | @cons first rest other _ hfirst hrest ih =>
      rw [List.append_assoc]
      rcases List.mem_cons.mp hrule with rfl | hlater
      · have hends : Begins EndsCall (rest ++ more) :=
          begins_append (fun t ht => (begins_of_isExpressions hrest t ht).1)
            fun t ht => (hmore t ht).endsExpression.1
        cases hfirst with
        | rule h => exact absurd (depth_le_of_isRule h) (Nat.not_le.mpr hdeep)
        | or hleft hright =>
            simpa using JoinsIn.intro .nil hleft hright fun _ => hends
      · exact (ih hlater).cons hfirst

theorem exists_joinsIn_of_isColumn {terminals : List Terminal} {column : Column}
    (h : IsColumn terminals column) (hdepth : ¬∀ rule ∈ column.rules, rule.depth ≤ maxDepth) :
    ∃ name colon behind rule, terminals = ⟨.word, name⟩ :: ⟨.colon, colon⟩ :: behind ∧
      JoinsIn behind rule ∧ maxDepth < rule.depth := by
  simp only [not_forall, Nat.not_le] at hdepth
  obtain ⟨rule, hrule, hdeep⟩ := hdepth
  cases h with
  | @intro name colon mark _ _ _ _ hrules hwritten _ =>
      have hjoins := joinsIn_of_mem hrules (begins_of_directives hwritten mark) hrule hdeep
      exact ⟨name, colon, _, rule, rfl, hjoins, hdeep⟩

-- A column is read, or has a rule that is joined and too deep.
theorem columnOf_of_isColumn {tokens : List Token} {terminals : List Terminal} {column : Column}
    (h : IsColumn terminals column) (htokens : tokens.map Token.terminal = terminals) :
    (columnOf tokens).result = .ok column ∨ (columnOf tokens).result = .error .tooDeep := by
  by_cases hdepth : ∀ rule ∈ column.rules, rule.depth ≤ maxDepth
  · exact .inl (columnOf_complete h htokens hdepth)
  · obtain ⟨name, colon, behind, rule, rfl, hjoins, hdeep⟩ := exists_joinsIn_of_isColumn h hdepth
    exact .inr (columnOf_tooDeep hjoins hdeep htokens)

-- What stands behind whole columns is read, if none of them has a rule that is too deep.
theorem columnsOf_of_columns {lines : List Line} {before after : List (List Terminal)}
    {columns : List Column} (hbefore : List.Forall₂ IsColumn before columns)
    (hlines : (lines.map fun line => line.tokens.map Token.terminal) = before ++ after) :
    (columnsOf lines).result = .error .tooDeep ∨ ∃ rest : List Line,
      (rest.map fun line => line.tokens.map Token.terminal) = after ∧
        ∀ fault, (columnsOf rest).result = .error fault →
          (columnsOf lines).result = .error fault := by
  induction hbefore generalizing lines with
  | nil => exact .inr ⟨lines, hlines, fun _ hfault => hfault⟩
  | cons hfirst _ ih =>
      obtain ⟨line, others, rfl, hline, hothers⟩ := List.map_eq_cons_iff.mp hlines
      rcases columnOf_of_isColumn hfirst hline with hcolumn | hdeep
      · have hstep : ∀ fault, (columnsOf others).result = .error fault →
            (columnsOf (line :: others)).result = .error fault := by
          intro fault hfault
          rw [columnsOf, Parse.result_note_bind, Parse.result_bind_of_ok hcolumn]
          exact Parse.result_bind_of_error hfault _
        rcases ih hothers with hlast | ⟨rest, hr, hlast⟩
        · exact .inl (hstep _ hlast)
        · exact .inr ⟨rest, hr, fun fault hfault => hstep _ (hlast fault hfault)⟩
      · rw [columnsOf, Parse.result_note_bind]
        exact .inl (Parse.result_bind_of_error hdeep _)

-- A rule that is too deep, among columns whose other lines may be anything, is joined.
theorem exists_joinsIn_of_columns {lines : List (List Terminal)} {columns : List Column}
    (h : List.Forall₂ IsColumn lines columns) (hdepth : ¬DepthWithinLimit columns) :
    ∃ before name colon behind after others rule,
      lines = before ++ (⟨.word, name⟩ :: ⟨.colon, colon⟩ :: behind) :: after ∧
        List.Forall₂ IsColumn before others ∧ JoinsIn behind rule ∧ maxDepth < rule.depth := by
  induction h with
  | nil => exact absurd nofun hdepth
  | @cons line column lines columns hfirst _ ih =>
      by_cases hcolumn : ∀ rule ∈ column.rules, rule.depth ≤ maxDepth
      · have hothers : ¬DepthWithinLimit columns :=
          fun hothers => hdepth (List.forall_mem_cons.mpr ⟨hcolumn, hothers⟩)
        obtain ⟨before, name, colon, behind, after, others, rule, rfl, hbefore, hrule⟩ := ih hothers
        exact ⟨line :: before, name, colon, behind, after, column :: others, rule, rfl,
          .cons hfirst hbefore, hrule⟩
      · obtain ⟨name, colon, behind, rule, rfl, hrule⟩ := exists_joinsIn_of_isColumn hfirst hcolumn
        exact ⟨[], name, colon, behind, lines, [], rule, rfl, .nil, hrule⟩

/-! The whole text -/

variable {text : String}

-- Alternatives that are too deep stop the parser, whatever the rest of the text is.
theorem parse_tooDeep {rule : Rule} (h : Joins text rule) (hdeep : maxDepth < rule.depth)
    (hlimit : TotalWithinLimit text) : (parse text).result = .error .tooDeep := by
  obtain ⟨hlines, hglobals, hbefore, hjoins⟩ := h
  have hcount := hlimit _ (by rw [hlines]; rfl)
  obtain ⟨start, others, hl, hstart, hothers⟩ := List.map_eq_cons_iff.mp hlines
  have hcolumns : (columnsOf others).result = .error .tooDeep := by
    rcases columnsOf_of_columns hbefore hothers with hearly | ⟨rest, hrest, hread⟩
    · exact hearly
    · obtain ⟨line, rest, rfl, hline, -⟩ := List.map_eq_cons_iff.mp hrest
      refine hread _ ?_
      rw [columnsOf, Parse.result_note_bind]
      exact Parse.result_bind_of_error (columnOf_tooDeep hjoins hdeep hline) _
  simp only [parse, hl, schemaOf, Parse.result_note_bind]
  rw [Parse.result_bind_of_ok (globalsOf_complete hglobals hcount hstart)]
  exact Parse.result_bind_of_error hcolumns _

-- Columns of a text with a rule that is too deep.
theorem exists_joins_of_columns {first : List Terminal} {lines : List (List Terminal)}
    {globals : Globals} {columns : List Column} (hlines : terminals text = first :: lines)
    (hglobals : IsGlobals first globals) (hcolumns : List.Forall₂ IsColumn lines columns)
    (hdepth : ¬DepthWithinLimit columns) : ∃ rule, Joins text rule ∧ maxDepth < rule.depth := by
  obtain ⟨before, name, colon, behind, after, others, rule, rfl, hbefore, hjoins, hdeep⟩ :=
    exists_joinsIn_of_columns hcolumns hdepth
  exact ⟨rule, .intro hlines hglobals hbefore hjoins, hdeep⟩

theorem exists_joins_of_denotes {schema : Schema} (h : Denotes text schema)
    (hdepth : ¬DepthWithinLimit schema.columns) : ∃ rule, Joins text rule ∧ maxDepth < rule.depth := by
  obtain ⟨hlines, hglobals, hcolumns, -, -⟩ := h
  exact exists_joins_of_columns hlines hglobals hcolumns hdepth

-- A schema that was read has no rule that is too deep.
theorem depthWithinLimit_of_parse {schema : Schema} (h : (parse text).result = .ok schema) :
    DepthWithinLimit schema.columns := by
  by_contra hdepth
  obtain ⟨rule, hjoins, hdeep⟩ := exists_joins_of_denotes (denotes_of_parse h) hdepth
  cases (parse_tooDeep hjoins hdeep (totalWithinLimit_of_parse h)).symm.trans h

end TableSchema.Schema
