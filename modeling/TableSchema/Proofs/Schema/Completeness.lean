import TableSchema.Proofs.Schema.Soundness

namespace TableSchema.Schema

open Grammar TableSchema.Text

-- How a list of terminals begins. Nothing is said of the empty list.
def Begins (p : Terminal → Prop) (terminals : List Terminal) : Prop :=
  ∀ terminal ∈ terminals.head?, p terminal

-- What can stand behind a call whose parentheses are complete, or missing.
def EndsCall (terminal : Terminal) : Prop :=
  terminal.kind ≠ .opening

-- What can stand behind an expression.
def EndsExpression (terminal : Terminal) : Prop :=
  terminal.kind ≠ .opening ∧ terminal ≠ ⟨.word, "or"⟩

-- What can stand behind all expressions of a column.
def EndsExpressions (terminal : Terminal) : Prop :=
  terminal.kind = .directive ∨ terminal.kind = .endOfLine

/-! Calls -/

theorem argumentsFrom_complete {tokens : List Token} {inner more : List Terminal}
    {found : List Argument} {closing : String} (h : IsArguments inner found)
    (htokens : tokens.map Token.terminal = inner ++ ⟨.closing, closing⟩ :: more) :
    (argumentsFrom tokens).result = .ok (found, inner.length + 1) := by
  induction h generalizing tokens with
  | last h =>
      obtain ⟨token, others, rfl, rfl, hothers⟩ := List.map_eq_cons_iff.mp htokens
      obtain ⟨next, rest, rfl, hn, -⟩ := List.map_eq_cons_iff.mp hothers
      have hk : next.kind = .closing := congrArg Terminal.kind hn
      simp [argumentsFrom, argumentOf?_eq_some_iff.mpr h, hk]
  | more h _ ih =>
      obtain ⟨token, others, rfl, rfl, hothers⟩ := List.map_eq_cons_iff.mp htokens
      obtain ⟨next, rest, rfl, hn, hrest⟩ := List.map_eq_cons_iff.mp hothers
      have hk : next.kind = .comma := congrArg Terminal.kind hn
      simp only [argumentsFrom, argumentOf?_eq_some_iff.mpr h, hk, if_true]
      rw [Parse.result_bind_of_ok (ih hrest)]
      simp

theorem arguments_of_isArguments {tokens : List Token} {inner more : List Terminal}
    {found : List Argument} {opening closing : String} (h : IsArguments inner found)
    (htokens : tokens.map Token.terminal =
      ⟨.opening, opening⟩ :: (inner ++ ⟨.closing, closing⟩ :: more)) :
    (arguments tokens).result = .ok (found, inner.length + 2) := by
  obtain ⟨opening, others, rfl, ho, hothers⟩ := List.map_eq_cons_iff.mp htokens
  have hko : (current (opening :: others)).kind = .opening := congrArg Terminal.kind ho
  have hfirst : (current others).kind ≠ .closing := by
    obtain ⟨first, rest, rfl, hf⟩ := h.exists_cons
    obtain ⟨token, tail, rfl, rfl, -⟩ := List.map_eq_cons_iff.mp hothers
    exact hf
  simp only [arguments, List.drop_one, List.tail_cons, hfirst, if_false]
  rw [if_pos hko, Parse.result_bind_of_ok (argumentsFrom_complete h hothers)]
  simp

theorem arguments_complete {tokens : List Token} {head : Terminal} {behind more : List Terminal}
    {name : Rule.Name} {found : List Argument} (h : IsCall (head :: behind) name found)
    (htokens : tokens.map Token.terminal = behind ++ more)
    (hmore : behind = [] → Begins EndsCall more) :
    (arguments tokens).result = .ok (found, behind.length) := by
  cases h with
  | plain =>
      have hmore := hmore rfl
      have hk : (current tokens).kind ≠ .opening := by
        cases tokens with
        | nil => nofun
        | cons token rest =>
            rw [List.nil_append] at htokens
            exact hmore token.terminal (by simp [← htokens])
      simp [arguments, hk]
  | empty =>
      obtain ⟨opening, others, rfl, ho, hothers⟩ := List.map_eq_cons_iff.mp htokens
      obtain ⟨closing, rest, rfl, hc, -⟩ := List.map_eq_cons_iff.mp hothers
      have hko : opening.kind = .opening := congrArg Terminal.kind ho
      have hkc : closing.kind = .closing := congrArg Terminal.kind hc
      simp [arguments, current, hko, hkc]
  | applied _ _ _ hinner =>
      rw [arguments_of_isArguments hinner (by simpa using htokens)]
      simp

/-! Rules -/

theorem buildRule_of_build {name : Rule.Name} {arguments : List Argument} {rule : Rule}
    (h : Rule.build name arguments = .ok rule) (token : Token) :
    (buildRule token name arguments).result = .ok rule := by
  simp [buildRule, h]

-- A rule is read from its first token on, up to its last one. Only a rule without
-- parentheses depends on what stands behind it.
theorem ruleAt_complete {tokens : List Token} {call more : List Terminal} {rule : Rule}
    (h : IsRule call rule) (htokens : tokens.map Token.terminal = call ++ more)
    (hmore : call.length = 1 → Begins EndsCall more) :
    ∃ token rest behind, tokens = token :: rest ∧ call = token.terminal :: behind ∧
      token.kind = .word ∧ rest.map Token.terminal = behind ++ more ∧
      (ruleAt token rest).result = .ok (rule, behind.length) := by
  obtain ⟨hcall, hbuild⟩ := h
  obtain ⟨behind, rfl⟩ := hcall.exists_behind
  obtain ⟨token, rest, rfl, hhead, hbehind⟩ := List.map_eq_cons_iff.mp htokens
  have hword : token.kind = .word := congrArg Terminal.kind hhead
  have hname : token.text = _ := congrArg Terminal.text hhead
  refine ⟨token, rest, behind, rfl, by rw [hhead], hword, hbehind, ?_⟩
  simp only [ruleAt, hword, ne_eq, not_true_eq_false, if_false, hname, Rule.Name.ofText?_text]
  have hends : behind = [] → Begins EndsCall more := fun hnil => hmore (by simp [hnil])
  rw [Parse.result_bind_of_ok (arguments_complete hcall hbehind hends)]
  dsimp only
  rw [Parse.result_bind_of_ok (buildRule_of_build hbuild token)]
  simp

theorem drop_of_map_eq {tokens : List Token} {front more : List Terminal}
    (h : tokens.map Token.terminal = front ++ more) :
    (tokens.drop front.length).map Token.terminal = more := by
  rw [List.map_drop, h, List.drop_left]

theorem begins_append {p : Terminal → Prop} {front more : List Terminal} (hfront : Begins p front)
    (hmore : Begins p more) : Begins p (front ++ more) := by
  cases front with
  | nil => exact hmore
  | cons terminal front => exact hfront

theorem begins_of_isTail {first rule : Rule} {tail : List Terminal} (h : IsTail first tail rule) :
    Begins EndsCall tail := by
  cases h with
  | nil => nofun
  | cons => simp [Begins, EndsCall]

theorem Grammar.IsTail.depth_le {first rule : Rule} {tail : List Terminal}
    (h : IsTail first tail rule) : first.depth ≤ rule.depth := by
  induction h with
  | nil => exact Nat.le_refl _
  | cons _ _ ih =>
      rw [Rule.depth] at ih
      omega

-- One alternative is read, and joined before those behind it are read.
theorem alternatives_cons {left right : Rule} {call more : List Terminal} {tokens : List Token}
    (hright : IsRule call right) (hends : call.length = 1 → Begins EndsCall more)
    (htokens : tokens.map Token.terminal = ⟨.word, "or"⟩ :: (call ++ more)) :
    (alternatives left tokens).result =
      (do
        let joined ← join left right
        let (rule, used) ← alternatives joined (tokens.drop (call.length + 1))
        return (rule, call.length + 1 + used) : Parse (Rule × Nat)).result := by
  obtain ⟨token, others, rfl, ht, hothers⟩ := List.map_eq_cons_iff.mp htokens
  obtain ⟨name, tokens, behind, rfl, rfl, -, -, hrule⟩ := ruleAt_complete hright hothers hends
  have hcount : ∀ used, 2 + behind.length + used = behind.length + 1 + 1 + used := by omega
  simp only [alternatives, isOr_iff.mpr ht, if_true, List.drop_one, List.tail_cons, current,
    List.headD_cons]
  rw [Parse.result_bind_of_ok hrule]
  simp only [List.length_cons, List.drop_succ_cons, hcount]

-- Alternatives that are not too deep are read before those behind them.
theorem alternatives_append {first rule : Rule} {tail more : List Terminal} {tokens : List Token}
    (h : IsTail first tail rule) (hmore : Begins EndsCall more) (hdepth : rule.depth ≤ maxDepth)
    (htokens : tokens.map Token.terminal = tail ++ more) :
    (alternatives first tokens).result =
      (alternatives rule (tokens.drop tail.length)).result.map fun (joined, used) =>
        (joined, tail.length + used) := by
  induction h generalizing tokens with
  | nil rule =>
      rw [List.length_nil, List.drop_zero]
      cases (alternatives rule tokens).result with
      | error fault => rfl
      | ok found => simp [Except.map]
  | @cons left other rule right rest hright htail ih =>
      rw [List.cons_append, List.append_assoc] at htokens
      have hends : Begins EndsCall (rest ++ more) := begins_append (begins_of_isTail htail) hmore
      have hrest := ih hdepth
        (@drop_of_map_eq tokens (⟨.word, "or"⟩ :: right) (rest ++ more) htokens)
      rw [alternatives_cons hright (fun _ => hends) htokens,
        Parse.result_bind_of_ok (join_of_depth_le (htail.depth_le.trans hdepth))]
      have hlength : (⟨.word, "or"⟩ :: (right ++ rest) : List Terminal).length =
          right.length + 1 + rest.length := by
        simp only [List.length_cons, List.length_append]
        omega
      rw [List.length_cons, List.drop_drop] at hrest
      rw [hlength]
      cases hbehind : (alternatives rule (tokens.drop (right.length + 1 + rest.length))).result with
      | error fault =>
          rw [hbehind] at hrest
          exact Parse.result_bind_of_error hrest _
      | ok found =>
          rw [hbehind] at hrest
          rw [Parse.result_bind_of_ok hrest]
          simp [Except.map, Nat.add_assoc]

theorem alternatives_of_begins {rule : Rule} {tokens : List Token} {more : List Terminal}
    (hmore : Begins EndsExpression more) (htokens : tokens.map Token.terminal = more) :
    (alternatives rule tokens).result = .ok (rule, 0) := by
  cases tokens with
  | nil => simp [alternatives]
  | cons token rest =>
      have hor := mt isOr_iff.mp (hmore token.terminal (by simp [← htokens])).2
      simp [alternatives, hor]

/-! Expressions -/

-- No rule is named like the word between alternatives.
theorem text_ne_or (name : Rule.Name) : name.text ≠ "or" := by
  cases name with
  | compare test => cases test <;> decide
  | _ => decide

theorem begins_of_isCall {call : List Terminal} {name : Rule.Name} {found : List Argument}
    (h : IsCall call name found) (more : List Terminal) : Begins EndsExpression (call ++ more) := by
  obtain ⟨behind, rfl⟩ := h.exists_behind
  simp [Begins, EndsExpression, text_ne_or]

theorem begins_of_isExpression {front : List Terminal} {rule : Rule} (h : IsExpression front rule)
    (more : List Terminal) : Begins EndsExpression (front ++ more) := by
  obtain ⟨call, tail, first, rfl, ⟨hcall, -⟩, -⟩ := h.exists_tail
  rw [List.append_assoc]
  exact begins_of_isCall hcall (tail ++ more)

theorem EndsExpressions.endsExpression {terminal : Terminal} (h : EndsExpressions terminal) :
    EndsExpression terminal := by
  rcases h with hk | hk
  · exact ⟨by simp [hk], fun ho => by simp [ho] at hk⟩
  · exact ⟨by simp [hk], fun ho => by simp [ho] at hk⟩

theorem begins_of_isExpressions {terminals : List Terminal} {rules : List Rule}
    (h : IsExpressions terminals rules) : Begins EndsExpression terminals := by
  cases h with
  | nil => nofun
  | cons hfirst _ => exact begins_of_isExpression hfirst _

-- An expression that is not too deep is read before the alternatives behind it, and they
-- before the expressions behind them.
theorem rulesFrom_expression {front more : List Terminal} {rule : Rule} {tokens : List Token}
    (h : IsExpression front rule) (hmore : Begins EndsCall more) (hdepth : rule.depth ≤ maxDepth)
    (htokens : tokens.map Token.terminal = front ++ more) :
    (rulesFrom tokens).result =
      (do
        let (joined, used) ← alternatives rule (tokens.drop front.length)
        let (rules, remaining) ← rulesFrom ((tokens.drop front.length).drop used)
        return (joined :: rules, remaining) : Parse (List Rule × List Token)).result := by
  obtain ⟨call, tail, first, rfl, hcall, htail⟩ := h.exists_tail
  rw [List.append_assoc] at htokens
  have hbehind : Begins EndsCall (tail ++ more) := begins_append (begins_of_isTail htail) hmore
  obtain ⟨token, tokens, behind, rfl, rfl, hword, htokens, hrule⟩ :=
    ruleAt_complete hcall htokens fun _ => hbehind
  have halternatives := alternatives_append htail hmore hdepth (drop_of_map_eq htokens)
  simp only [rulesFrom, hword, if_true]
  rw [Parse.result_bind_of_ok hrule]
  simp only [List.cons_append, List.length_cons, List.drop_succ_cons, List.length_append,
    ← List.drop_drop]
  cases hlater : (alternatives rule ((tokens.drop behind.length).drop tail.length)).result with
  | error fault =>
      rw [hlater] at halternatives
      rw [Parse.result_bind_of_error halternatives, Parse.result_bind_of_error hlater]
  | ok found =>
      rw [hlater] at halternatives
      rw [Parse.result_bind_of_ok halternatives, Parse.result_bind_of_ok hlater]
      simp only [List.drop_drop, Nat.add_assoc]

theorem rulesFrom_cons {front more : List Terminal} {rule : Rule} {tokens : List Token}
    (h : IsExpression front rule) (hmore : Begins EndsExpression more)
    (hdepth : rule.depth ≤ maxDepth) (htokens : tokens.map Token.terminal = front ++ more) :
    (rulesFrom tokens).result =
      (do
        let (rules, remaining) ← rulesFrom (tokens.drop front.length)
        return (rule :: rules, remaining) : Parse (List Rule × List Token)).result := by
  rw [rulesFrom_expression h (fun t ht => (hmore t ht).1) hdepth htokens,
    Parse.result_bind_of_ok (alternatives_of_begins hmore (drop_of_map_eq htokens))]
  rfl

theorem rulesFrom_complete {terminals more : List Terminal} {rules : List Rule}
    {tokens : List Token}
    (h : IsExpressions terminals rules) (htokens : tokens.map Token.terminal = terminals ++ more)
    (hmore : Begins EndsExpressions more) (hdepth : ∀ rule ∈ rules, rule.depth ≤ maxDepth) :
    ∃ rest, rest.map Token.terminal = more ∧ (rulesFrom tokens).result = .ok (rules, rest) := by
  induction h generalizing tokens with
  | nil =>
      refine ⟨tokens, htokens, ?_⟩
      cases tokens with
      | nil => simp [rulesFrom]
      | cons token rest =>
          rw [List.nil_append] at htokens
          have hend := hmore token.terminal (by simp [← htokens])
          have hk : token.kind ≠ .word := by
            rintro hk
            rcases hend with h | h <;> simp [Token.terminal, hk] at h
          simp [rulesFrom, hk]
  | cons hfirst hrest ih =>
      rw [List.append_assoc] at htokens
      obtain ⟨hdepth, hothers⟩ := List.forall_mem_cons.mp hdepth
      have hbegins := begins_append (begins_of_isExpressions hrest)
        fun t ht => (hmore t ht).endsExpression
      obtain ⟨rest, hr, hrules⟩ := ih (drop_of_map_eq htokens) hothers
      refine ⟨rest, hr, ?_⟩
      rw [rulesFrom_cons hfirst hbegins hdepth htokens, Parse.result_bind_of_ok hrules,
        Parse.result_pure]

/-! Directives -/

theorem directiveOf?_complete {name : String} {directive : Directive}
    (h : directiveKey ("@" ++ name) = directiveKey directive.keyword) :
    directiveOf? name = some directive := by
  rw [directiveOf?, h]
  cases directive <;> decide

theorem directivesFrom_complete {written more : List Terminal} {seen directives : List Directive}
    {tokens : List Token} (h : List.Forall₂ IsDirective written directives)
    (htokens : tokens.map Token.terminal = written ++ more)
    (hmore : Begins (fun terminal => terminal.kind ≠ .directive) more) (hnodup : directives.Nodup)
    (hseen : ∀ directive ∈ directives, directive ∉ seen) :
    ∃ rest, rest.map Token.terminal = more ∧
      (directivesFrom seen tokens).result = .ok (directives, rest) := by
  induction h generalizing seen tokens with
  | nil =>
      refine ⟨tokens, htokens, ?_⟩
      cases tokens with
      | nil => simp [directivesFrom]
      | cons token rest =>
          rw [List.nil_append] at htokens
          have hk : token.kind ≠ .directive := hmore token.terminal (by simp [← htokens])
          simp [directivesFrom, hk]
  | @cons _ directive _ others hfirst _ ih =>
      obtain ⟨token, tokens, rfl, rfl, hbehind⟩ := List.map_eq_cons_iff.mp htokens
      obtain ⟨hkind, hkey⟩ := hfirst
      have hkind : token.kind = .directive := hkind
      have hkey : directiveKey ("@" ++ token.text) = directiveKey directive.keyword := hkey
      have hnew : directive ∉ seen := hseen directive (by simp)
      obtain ⟨hfresh, hnodup⟩ := List.nodup_cons.mp hnodup
      have hlater : ∀ other ∈ others, other ∉ seen ++ [directive] := by
        intro other hm hs
        rcases List.mem_append.mp hs with hs | hs
        · exact hseen other (List.mem_cons_of_mem _ hm) hs
        · obtain rfl := List.mem_singleton.mp hs
          exact hfresh hm
      obtain ⟨rest, hr, hrest⟩ := ih hbehind hnodup hlater
      refine ⟨rest, hr, ?_⟩
      simp only [directivesFrom, hkind, if_true, directiveOf?_complete hkey, List.contains_eq_mem,
        hnew, decide_false, Bool.false_eq_true, if_false, Parse.result_note_bind]
      rw [Parse.result_bind_of_ok hrest, Parse.result_pure]

/-! Lines -/

theorem begins_of_directives {written : List Terminal} {directives : List Directive}
    (h : List.Forall₂ IsDirective written directives) (mark : String) :
    Begins EndsExpressions (written ++ [⟨.endOfLine, mark⟩]) := by
  cases h with
  | nil => simp [Begins, EndsExpressions]
  | cons hd _ => simp [Begins, EndsExpressions, hd.1]

theorem columnOf_complete {tokens : List Token} {terminals : List Terminal} {column : Column}
    (h : IsColumn terminals column) (htokens : tokens.map Token.terminal = terminals)
    (hdepth : ∀ rule ∈ column.rules, rule.depth ≤ maxDepth) :
    (columnOf tokens).result = .ok column := by
  obtain @⟨name, colon, mark, expressions, written, rules, directives, hrules, hwritten, hnodup⟩ := h
  obtain ⟨first, others, rfl, hfirst, hothers⟩ := List.map_eq_cons_iff.mp htokens
  obtain ⟨second, tokens, rfl, hsecond, htokens⟩ := List.map_eq_cons_iff.mp hothers
  have hword : first.kind = .word := congrArg Terminal.kind hfirst
  have hname : first.text = name := congrArg Terminal.text hfirst
  have hcolon : second.kind = .colon := congrArg Terminal.kind hsecond
  obtain ⟨middle, hmiddle, hparsed⟩ :=
    rulesFrom_complete hrules htokens (begins_of_directives hwritten mark) hdepth
  have hseen : ∀ directive ∈ directives, directive ∉ ([] : List Directive) := by simp
  obtain ⟨rest, hrest, hdirectives⟩ :=
    directivesFrom_complete hwritten hmiddle (by simp [Begins]) hnodup hseen
  obtain ⟨last, _, rfl, hlast, hnone⟩ := List.map_eq_cons_iff.mp hrest
  have hend : last.kind = .endOfLine := congrArg Terminal.kind hlast
  simp only [columnOf, current, List.headD_cons, List.drop_succ_cons, List.drop_zero, hword, hcolon,
    ne_eq, not_true_eq_false, if_false, Parse.result_note_bind]
  rw [Parse.result_bind_of_ok hparsed]
  dsimp only
  rw [Parse.result_bind_of_ok hdirectives]
  simp [hend, hname]

theorem optionOf?_complete {token : Token} {slots : List GlobalOption} {option : GlobalOption}
    {options : List GlobalOption} (h : IsOption token.terminal option)
    (horder : (option :: options).Sublist slots) (hslots : slots.Nodup) :
    ∃ later, optionOf? token slots = some (option, later) ∧ options.Sublist later ∧
      later.Nodup := by
  obtain ⟨hkind, hkey⟩ := h
  have hkind : token.kind = .directive := hkind
  have hkey : directiveKey token.text = option.key := hkey
  simp only [optionOf?, hkind, if_true, hkey]
  induction slots with
  | nil => cases horder
  | cons slot slots ih =>
      obtain ⟨hfresh, hnodup⟩ := List.nodup_cons.mp hslots
      rcases List.cons_sublist_cons'.mp horder with hlater | ⟨rfl, hsub⟩
      · have hne : slot.key ≠ option.key := by
          intro he
          have hm : option ∈ slots := hlater.subset (by simp)
          cases slot <;> cases option <;> first | exact hfresh hm | exact absurd he (by decide)
        rw [List.dropWhile_cons_of_pos (by simpa using hne)]
        exact ih hlater hnodup
      · rw [List.dropWhile_cons_of_neg (by simp)]
        exact ⟨slots, rfl, hsub, hnodup⟩

theorem globalOptions_complete {written : List Terminal} {mark : String}
    {slots options : List GlobalOption} {tokens : List Token}
    (h : List.Forall₂ IsOption written options)
    (htokens : tokens.map Token.terminal = written ++ [⟨.endOfLine, mark⟩])
    (horder : options.Sublist slots) (hslots : slots.Nodup) :
    (globalOptions slots tokens).result = .ok options := by
  induction h generalizing slots tokens with
  | nil =>
      obtain ⟨last, _, rfl, hlast, -⟩ := List.map_eq_cons_iff.mp htokens
      have hend : last.kind = .endOfLine := congrArg Terminal.kind hlast
      simp [globalOptions, hend]
  | cons hfirst _ ih =>
      obtain ⟨token, tokens, rfl, rfl, hbehind⟩ := List.map_eq_cons_iff.mp htokens
      have hkind : token.kind = .directive := hfirst.1
      obtain ⟨later, hoption, hsub, hlater⟩ := optionOf?_complete hfirst horder hslots
      simp only [globalOptions, hkind, reduceCtorEq, if_false, hoption, Parse.result_note_bind]
      rw [Parse.result_bind_of_ok (ih hbehind hsub hlater), Parse.result_pure]

theorem totalOf_complete {token : Token} {total : Nat} (h : IsTotal token.terminal total)
    (hlimit : token.text.toList.length ≤ totalLimit) : (totalOf token).result = .ok total := by
  obtain ⟨hword, hwritten, hdigits, hvalue, hpositive⟩ := h
  simp only [Token.terminal] at hword hwritten hdigits hvalue
  have hdigits : token.text.toList.all isAsciiDigit = true := List.all_eq_true.mpr hdigits
  simp only [totalOf, ← hvalue]
  rw [if_neg (by simp only [hword, hdigits, List.isEmpty_iff, hwritten]; simp),
    if_neg (Nat.not_lt.mpr hlimit), if_neg (Nat.not_lt.mpr hpositive), Parse.result_pure]

-- The number of columns, as a first line says it, is not beyond the limit for numbers.
def CountWithinLimit (first : List Terminal) : Prop :=
  ∀ name count rest, first = ⟨.directive, name⟩ :: ⟨.word, count⟩ :: rest →
    directiveKey name = "totalcolumns" → (∀ c ∈ count.toList, isAsciiDigit c = true) →
      count.toList.length ≤ totalLimit

theorem globalsOf_complete {tokens : List Token} {terminals : List Terminal} {globals : Globals}
    (h : IsGlobals terminals globals) (hlimit : CountWithinLimit terminals)
    (htokens : tokens.map Token.terminal = terminals) : (globalsOf tokens).result = .ok globals := by
  obtain @⟨name, count, total, written, options, mark, hname, htotal, hwritten, horder⟩ := h
  obtain ⟨first, others, rfl, hfirst, hothers⟩ := List.map_eq_cons_iff.mp htokens
  obtain ⟨second, tokens, rfl, rfl, hrest⟩ := List.map_eq_cons_iff.mp hothers
  have hkind : first.kind = .directive := congrArg Terminal.kind hfirst
  have htext : first.text = name := congrArg Terminal.text hfirst
  have hcount : (totalOf second).result = .ok total := by
    rw [Token.terminal_eq htotal.word] at hlimit
    exact totalOf_complete htotal (hlimit _ _ _ rfl hname htotal.digits)
  have hoptions : (globalOptions GlobalOption.all tokens).result = .ok options :=
    globalOptions_complete hwritten hrest horder (by decide)
  simp only [globalsOf, current, List.headD_cons, isTotalColumns, hkind, htext, hname,
    beq_self_eq_true, Bool.and_self, if_true, List.drop_one, List.tail_cons]
  rw [Parse.result_bind_of_ok hcount, Parse.result_note_bind, Parse.result_bind_of_ok hoptions,
    Parse.result_pure]

/-! The whole text -/

-- No rule of the columns is too deep to be rendered.
def DepthWithinLimit (columns : List Column) : Prop :=
  ∀ column ∈ columns, ∀ rule ∈ column.rules, rule.depth ≤ maxDepth

instance (columns : List Column) : Decidable (DepthWithinLimit columns) :=
  inferInstanceAs (Decidable (∀ column ∈ columns, ∀ rule ∈ column.rules, rule.depth ≤ maxDepth))

theorem columnsOf_complete {lines : List Line} {columns : List Column}
    (h : List.Forall₂ IsColumn (lines.map fun line => line.tokens.map Token.terminal) columns)
    (hdepth : DepthWithinLimit columns) : (columnsOf lines).result = .ok columns := by
  induction lines generalizing columns with
  | nil =>
      cases h
      simp [columnsOf]
  | cons line lines ih =>
      obtain ⟨column, columns, hfirst, hothers, rfl⟩ := List.forall₂_cons_left_iff.mp h
      obtain ⟨hcolumn, hcolumns⟩ := List.forall_mem_cons.mp hdepth
      simp only [columnsOf, Parse.result_note_bind]
      rw [Parse.result_bind_of_ok (columnOf_complete hfirst rfl hcolumn),
        Parse.result_bind_of_ok (ih hothers hcolumns), Parse.result_pure]

def TotalWithinLimit (text : String) : Prop :=
  ∀ first ∈ (terminals text).head?, CountWithinLimit first

theorem countWithinLimit_of_globalsOf {tokens : List Token} {globals : Globals}
    (h : (globalsOf tokens).result = .ok globals) :
    CountWithinLimit (tokens.map Token.terminal) := by
  intro name count rest htokens _ _
  obtain ⟨first, others, rfl, -, hothers⟩ := List.map_eq_cons_iff.mp htokens
  obtain ⟨second, tokens, rfl, hsecond, -⟩ := List.map_eq_cons_iff.mp hothers
  have hcount : second.text = count := congrArg Terminal.text hsecond
  simp only [globalsOf] at h
  split at h
  · obtain ⟨total, htotal, -⟩ := Parse.result_bind_eq_ok_iff.mp h
    rw [← hcount]
    exact (totalOf_sound htotal).2
  · simp at h

theorem totalWithinLimit_of_parse {text : String} {schema : Schema}
    (h : (parse text).result = .ok schema) : TotalWithinLimit text := by
  obtain ⟨first, lines, globals, columns, hlines, hglobals, -⟩ := exists_parts_of_parse h
  intro terminals hfirst
  rw [Schema.terminals, hlines] at hfirst
  obtain rfl := Option.some.inj hfirst
  exact countWithinLimit_of_globalsOf hglobals

-- A text that stands for a schema is accepted, as that schema, if nothing in it is
-- beyond a limit.
theorem parse_of_denotes {text : String} {schema : Schema} (h : Denotes text schema)
    (hlimit : TotalWithinLimit text) (hdepth : DepthWithinLimit schema.columns) :
    (parse text).result = .ok schema := by
  obtain @⟨first, lines, globals, columns, hlines, hglobals, hcolumns, htotal, hreferences⟩ := h
  simp only [terminals] at hlines
  obtain ⟨start, others, hl, rfl, rfl⟩ := List.map_eq_cons_iff.mp hlines
  have hparsed : (globalsOf start.tokens).result = .ok globals :=
    globalsOf_complete hglobals (hlimit _ (by simp [terminals, hl])) rfl
  have hd : diagnostics globals.total columns (current start.tokens)
      (others.map fun line => current line.tokens) = [] :=
    (diagnostics_eq_nil_iff (by simpa using hcolumns.length_eq)).mpr ⟨htotal, hreferences⟩
  simp only [parse, hl, schemaOf, Parse.result_note_bind]
  rw [Parse.result_bind_of_ok hparsed, Parse.result_bind_of_ok (columnsOf_complete hcolumns hdepth)]
  exact finish_eq_ok_iff.mpr ⟨hd, rfl⟩

end TableSchema.Schema
