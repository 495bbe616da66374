import TableSchema.Proofs.Rule.Faults
import TableSchema.Proofs.Schema.Depth

namespace TableSchema.Schema

open Grammar TableSchema.Text

-- The fault says what is wrong with the text, and where.
def ParseFault.isDiagnosed : ParseFault → Bool
  | .syntaxError _ => true
  | .rejected _ => true
  | _ => false

-- The fault is one of the syntax, at one place.
def ParseFault.isSyntax : ParseFault → Bool
  | .syntaxError _ => true
  | _ => false

theorem ParseFault.isDiagnosed_of_isSyntax {fault : ParseFault} (h : fault.isSyntax = true) :
    fault.isDiagnosed = true := by
  cases fault with
  | syntaxError diagnostic => rfl
  | _ => cases h

-- A call in front of the terminals fails to build, with a fault that is not reported.
def Breaks (terminals : List Terminal) : Prop :=
  ∃ call more name arguments fault, terminals = call ++ more ∧ IsCall call name arguments ∧
    Rule.build name arguments = .error fault ∧ fault.isReported = false

-- What can stand in front of a call: whole expressions, and one more with the
-- word that joins it to the call.
inductive Opens : List Terminal → Prop
  | expression {front : List Terminal} {rules : List Rule} (h : IsExpressions front rules) :
      Opens front
  | alternative {front left : List Terminal} {rules : List Rule} {rule : Rule}
      (h : IsExpressions front rules) (hleft : IsExpression left rule) :
      Opens (front ++ (left ++ [⟨.word, "or"⟩]))

theorem Opens.cons {first front : List Terminal} {rule : Rule} (hfirst : IsExpression first rule)
    (h : Opens front) : Opens (first ++ front) := by
  cases h with
  | expression h => exact .expression (.cons hfirst h)
  | alternative h hleft =>
      rw [← List.append_assoc]
      exact .alternative (.cons hfirst h) hleft

/-! Rules -/

theorem isSyntax_of_fail {α : Type} {cause : Cause} {token : Token} {fault : ParseFault}
    (h : (Parse.fail cause token : Parse α).result = .error fault) : fault.isSyntax = true := by
  obtain rfl := Except.error.inj h
  rfl

theorem argumentsFrom_fault {tokens : List Token} {fault : ParseFault}
    (h : (argumentsFrom tokens).result = .error fault) : fault.isSyntax = true := by
  fun_induction argumentsFrom tokens with
  | case4 _ _ _ _ _ _ ih => exact ih (Parse.result_eq_error_of_bind h fun _ => ⟨_, rfl⟩)
  | case5 => simp at h
  | _ => exact isSyntax_of_fail h

theorem arguments_fault {tokens : List Token} {fault : ParseFault}
    (h : (arguments tokens).result = .error fault) : fault.isSyntax = true := by
  simp only [arguments] at h
  split at h
  · split at h
    · simp at h
    · exact argumentsFrom_fault (Parse.result_eq_error_of_bind h fun _ => ⟨_, rfl⟩)
  · simp at h

theorem buildRule_fault {token : Token} {name : Rule.Name} {arguments : List Argument}
    {fault : ParseFault} (h : (buildRule token name arguments).result = .error fault) :
    fault.isSyntax = true ∨
      ∃ cause, Rule.build name arguments = .error cause ∧ cause.isReported = false := by
  simp only [buildRule] at h
  split at h
  · simp at h
  · exact .inl (isSyntax_of_fail h)
  · exact .inl (isSyntax_of_fail h)
  · rename_i text cause hother hb
    refine .inr ⟨_, hb, ?_⟩
    cases cause with
    | malformed cause position => exact absurd rfl (hother cause position)
    | _ => rfl
  · rename_i hb
    exact .inr ⟨_, hb, rfl⟩

theorem ruleAt_fault {token : Token} {rest : List Token} {fault : ParseFault}
    (h : (ruleAt token rest).result = .error fault) :
    fault.isSyntax = true ∨ Breaks ((token :: rest).map Token.terminal) := by
  simp only [ruleAt] at h
  split at h
  · exact .inl (isSyntax_of_fail h)
  · rename_i hword
    rw [not_not] at hword
    split at h
    · exact .inl (isSyntax_of_fail h)
    · rename_i name hname
      rcases Parse.result_bind_eq_error_iff.mp h with h | ⟨⟨found, used⟩, ha, h⟩
      · exact .inl (arguments_fault h)
      · have h := Parse.result_eq_error_of_bind h fun _ => ⟨_, rfl⟩
        refine (buildRule_fault h).imp id ?_
        rintro ⟨cause, hb, hc⟩
        obtain ⟨front, after, rfl, -, hcall⟩ := arguments_sound ha name
        refine ⟨_, after.map Token.terminal, name, found, cause, ?_, hcall, hb, hc⟩
        simp [Token.terminal_eq hword, Rule.Name.text_of_ofText? hname]

-- A rule that is read without parentheses has none behind it.
theorem kind_ne_of_arguments {tokens : List Token} {found : List Argument}
    (h : (arguments tokens).result = .ok (found, 0)) : (current tokens).kind ≠ .opening := by
  intro hopening
  simp only [arguments, hopening, if_true] at h
  split at h
  · simp at h
  · simp only [Parse.result_bind_eq_ok_iff, Parse.result_pure, Except.ok.injEq, Prod.mk.injEq,
      Nat.add_one_ne_zero, and_false, exists_false] at h

theorem begins_of_ruleAt {token : Token} {front after : List Token} {rule : Rule}
    (h : (ruleAt token (front ++ after)).result = .ok (rule, front.length))
    (hfront : front.length = 0) : Begins EndsCall (after.map Token.terminal) := by
  obtain rfl := List.length_eq_zero_iff.mp hfront
  simp only [ruleAt] at h
  split at h
  · simp at h
  · split at h
    · simp at h
    · simp only [Parse.result_bind_eq_ok_iff, Parse.result_pure, Except.ok.injEq, Prod.mk.injEq,
        Prod.exists] at h
      obtain ⟨found, used, ha, _, -, _, -, -, rfl⟩ := h
      have hkind := kind_ne_of_arguments ha
      cases after with
      | nil => nofun
      | cons next rest =>
          intro terminal hterminal
          obtain rfl := Option.some.inj hterminal
          exact hkind

-- What stops the parser at a limit behind an expression: a call that breaks it, or
-- alternatives that are too deep.
inductive StopsTail (left : Rule) : List Terminal → Prop
  | call {tail more : List Terminal} {rule : Rule} (htail : IsTail left tail rule)
      (hbreaks : Breaks more) : StopsTail left (tail ++ ⟨.word, "or"⟩ :: more)
  | join {tail right more : List Terminal} {rule second : Rule} (htail : IsTail left tail rule)
      (hright : IsRule right second) (hends : right.length = 1 → Begins EndsCall more)
      (hdeep : maxDepth < (Rule.or rule second).depth) :
      StopsTail left (tail ++ ⟨.word, "or"⟩ :: (right ++ more))

theorem StopsTail.cons {left second : Rule} {right rest : List Terminal}
    (hright : IsRule right second) (h : StopsTail (.or left second) rest) :
    StopsTail left (⟨.word, "or"⟩ :: (right ++ rest)) := by
  cases h with
  | call htail hbreaks => simpa using StopsTail.call (.cons hright htail) hbreaks
  | join htail hlast hends hdeep => simpa using StopsTail.join (.cons hright htail) hlast hends hdeep

theorem alternatives_fault {left : Rule} {tokens : List Token} {fault : ParseFault}
    (h : (alternatives left tokens).result = .error fault) :
    fault.isSyntax = true ∨ StopsTail left (tokens.map Token.terminal) := by
  fun_induction alternatives left tokens with
  | case1 => simp at h
  | case2 left token rest hor ih =>
      rcases Parse.result_bind_eq_error_iff.mp h with h | ⟨⟨right, used⟩, hr, h⟩
      · cases rest with
        | nil => exact .inl (isSyntax_of_fail (α := Rule × Nat) h)
        | cons next rest =>
            refine (ruleAt_fault h).imp id fun hbreaks => ?_
            simpa [isOr_iff.mp hor, current] using StopsTail.call (.nil left) hbreaks
      · obtain ⟨hword, front, after, hfront, rfl, hrule⟩ := ruleAt_sound hr
        obtain ⟨name, rest, rfl, -⟩ := exists_cons_of_current hword (by decide)
        rw [List.drop_one, List.tail_cons] at hfront hr
        subst hfront
        rcases Nat.lt_or_ge maxDepth (Rule.or left right).depth with hdeep | hdepth
        · have hends : ((name :: front).map Token.terminal).length = 1 →
              Begins EndsCall (after.map Token.terminal) :=
            fun hlength => begins_of_ruleAt hr (by simpa using hlength)
          refine .inr ?_
          simpa [isOr_iff.mp hor, current] using StopsTail.join (.nil left) hrule hends hdeep
        · dsimp only at h
          rw [Parse.result_bind_of_ok (join_of_depth_le hdepth)] at h
          have h := Parse.result_eq_error_of_bind h fun _ => ⟨_, rfl⟩
          refine (ih _ _ h).imp id fun hstops => ?_
          simp only [List.drop_one, List.tail_cons, List.drop_left] at hstops
          simpa [isOr_iff.mp hor, current] using hstops.cons hrule
  | case3 => simp at h

-- What stops the parser behind the colon of a column.
inductive Stops : List Terminal → Prop
  | call {front more : List Terminal} (hopens : Opens front) (hbreaks : Breaks more) :
      Stops (front ++ more)
  | join {terminals : List Terminal} {rule : Rule} (hjoins : JoinsIn terminals rule)
      (hdeep : maxDepth < rule.depth) : Stops terminals

theorem Stops.cons {first rest : List Terminal} {rule : Rule} (hfirst : IsExpression first rule)
    (h : Stops rest) : Stops (first ++ rest) := by
  cases h with
  | call hopens hbreaks =>
      rw [← List.append_assoc]
      exact .call (hopens.cons hfirst) hbreaks
  | join hjoins hdeep => exact .join (hjoins.cons hfirst) hdeep

theorem StopsTail.append {call rest : List Terminal} {rule : Rule} (hcall : IsRule call rule)
    (h : StopsTail rule rest) : Stops (call ++ rest) := by
  cases h with
  | call htail hbreaks =>
      have hleft := (IsExpression.rule hcall).append_tail htail
      simpa using Stops.call (.alternative .nil hleft) hbreaks
  | join htail hright hends hdeep =>
      have hleft := (IsExpression.rule hcall).append_tail htail
      have hjoins := JoinsIn.intro .nil hleft hright hends
      simpa using Stops.join hjoins hdeep

theorem rulesFrom_fault {tokens : List Token} {fault : ParseFault}
    (h : (rulesFrom tokens).result = .error fault) :
    fault.isSyntax = true ∨ Stops (tokens.map Token.terminal) := by
  fun_induction rulesFrom tokens with
  | case1 => simp at h
  | case2 token tokens hword ih =>
      rcases Parse.result_bind_eq_error_iff.mp h with h | ⟨⟨first, used⟩, hr, h⟩
      · exact (ruleAt_fault h).imp id fun hbreaks => .call (.expression .nil) hbreaks
      · obtain ⟨-, front, after, rfl, rfl, hrule⟩ := ruleAt_sound hr
        have hrest := ih front.length
        simp only [List.drop_left] at h hrest
        rw [← List.cons_append, List.map_append]
        rcases Parse.result_bind_eq_error_iff.mp h with h | ⟨⟨rule, count⟩, ht, h⟩
        · exact (alternatives_fault h).imp id fun hstops => hstops.append hrule
        · obtain ⟨tail, last, rfl, rfl, htail⟩ := alternatives_sound ht
          have hfirst := (IsExpression.rule hrule).append_tail htail
          have hlast := hrest tail.length
          simp only [List.drop_left] at h hlast
          have h := Parse.result_eq_error_of_bind h fun _ => ⟨_, rfl⟩
          refine (hlast h).imp id fun hstops => ?_
          simpa using hstops.cons hfirst
  | case3 => simp at h

/-! Lines -/

theorem directivesFrom_fault {seen : List Directive} {tokens : List Token} {fault : ParseFault}
    (h : (directivesFrom seen tokens).result = .error fault) : fault.isSyntax = true := by
  fun_induction directivesFrom seen tokens with
  | case4 _ _ _ _ _ _ _ ih =>
      rw [Parse.result_note_bind] at h
      exact ih (Parse.result_eq_error_of_bind h fun _ => ⟨_, rfl⟩)
  | case1 => simp at h
  | case5 => simp at h
  | _ => exact isSyntax_of_fail h

-- The line of a column that stops the parser.
inductive StopsColumn : List Terminal → Prop
  | intro {name colon : String} {behind : List Terminal} (hstops : Stops behind) :
      StopsColumn (⟨.word, name⟩ :: ⟨.colon, colon⟩ :: behind)

theorem columnOf_fault {tokens : List Token} {fault : ParseFault}
    (h : (columnOf tokens).result = .error fault) :
    fault.isSyntax = true ∨ StopsColumn (tokens.map Token.terminal) := by
  simp only [columnOf] at h
  split at h
  · exact .inl (isSyntax_of_fail h)
  · rename_i hword
    split at h
    · exact .inl (isSyntax_of_fail h)
    · rename_i hcolon
      rw [not_not] at hword hcolon
      obtain ⟨name, others, rfl, hn⟩ := exists_cons_of_current hword (by decide)
      obtain ⟨colon, tokens, ht, hc⟩ := exists_cons_of_current hcolon (by decide)
      rw [List.drop_one, List.tail_cons] at ht
      subst ht
      rw [Parse.result_note_bind] at h
      rcases Parse.result_bind_eq_error_iff.mp h with h | ⟨_, -, h⟩
      · refine (rulesFrom_fault h).imp id fun hstops => ?_
        simp only [List.map_cons, Token.terminal_eq hn, Token.terminal_eq hc]
        exact .intro hstops
      · rcases Parse.result_bind_eq_error_iff.mp h with h | ⟨_, -, h⟩
        · exact .inl (directivesFrom_fault h)
        · split at h
          · exact .inl (isSyntax_of_fail h)
          · simp at h

theorem totalOf_fault {token : Token} {fault : ParseFault}
    (h : (totalOf token).result = .error fault) :
    fault.isSyntax = true ∨ token.kind = .word ∧
      (∀ c ∈ token.text.toList, isAsciiDigit c = true) ∧ totalLimit < token.text.toList.length := by
  simp only [totalOf] at h
  split at h
  · exact .inl (isSyntax_of_fail h)
  · rename_i hword
    simp only [not_or, not_not, Bool.not_eq_true, Bool.not_eq_false', List.all_eq_true] at hword
    split at h
    · rename_i hlimit
      exact .inr ⟨hword.1, hword.2.2, hlimit⟩
    · split at h
      · exact .inl (isSyntax_of_fail h)
      · simp at h

theorem globalOptions_fault {slots : List GlobalOption} {tokens : List Token} {fault : ParseFault}
    (h : (globalOptions slots tokens).result = .error fault) : fault.isSyntax = true := by
  fun_induction globalOptions slots tokens with
  | case1 => simp at h
  | case2 => simp at h
  | case3 => exact isSyntax_of_fail h
  | case4 _ _ _ _ _ _ _ ih =>
      rw [Parse.result_note_bind] at h
      exact ih (Parse.result_eq_error_of_bind h fun _ => ⟨_, rfl⟩)

theorem globalsOf_fault {tokens : List Token} {fault : ParseFault}
    (h : (globalsOf tokens).result = .error fault)
    (hlimit : CountWithinLimit (tokens.map Token.terminal)) : fault.isSyntax = true := by
  simp only [globalsOf] at h
  split at h
  · rename_i htotal
    simp only [isTotalColumns, Bool.and_eq_true, beq_iff_eq] at htotal
    rcases Parse.result_bind_eq_error_iff.mp h with h | ⟨_, -, h⟩
    · rcases totalOf_fault h with h | ⟨hword, hdigits, hlength⟩
      · exact h
      · obtain ⟨name, others, rfl, hn⟩ := exists_cons_of_current htotal.1 (by decide)
        obtain ⟨count, rest, ht, hc⟩ := exists_cons_of_current hword (by decide)
        rw [List.drop_one, List.tail_cons] at ht
        subst ht
        simp only [List.map_cons, Token.terminal_eq hn, Token.terminal_eq hc] at hlimit
        exact absurd hlength (Nat.not_lt.mpr (hlimit _ _ _ rfl htotal.2 hdigits))
    · rw [Parse.result_note_bind] at h
      exact globalOptions_fault (Parse.result_eq_error_of_bind h fun _ => ⟨_, rfl⟩)
  · exact isSyntax_of_fail h

/-! The whole text -/

theorem columnsOf_fault {lines : List Line} {fault : ParseFault}
    (hlines : ∀ line ∈ lines, IsLine line.tokens) (h : (columnsOf lines).result = .error fault) :
    fault.isSyntax = true ∨ ∃ before columns stopping after,
      (lines.map fun line => line.tokens.map Token.terminal) = before ++ stopping :: after ∧
        List.Forall₂ IsColumn before columns ∧ StopsColumn stopping := by
  induction lines with
  | nil => simp [columnsOf] at h
  | cons line lines ih =>
      simp only [columnsOf, Parse.result_note_bind] at h
      rcases Parse.result_bind_eq_error_iff.mp h with h | ⟨first, hf, h⟩
      · exact (columnOf_fault h).imp id fun hstops => ⟨[], [], _, _, rfl, .nil, hstops⟩
      · have h := Parse.result_eq_error_of_bind h fun _ => ⟨_, rfl⟩
        refine (ih (fun l hl => hlines l (List.mem_cons_of_mem _ hl)) h).imp id ?_
        rintro ⟨before, columns, stopping, after, hl, hbefore, hstops⟩
        have hfirst := columnOf_sound (hlines line (by simp)) hf
        exact ⟨_, _, stopping, after, by rw [List.map_cons, hl]; rfl, .cons hfirst hbefore, hstops⟩

-- The checks of the whole schema fail only if they find something.
theorem finish_fault {globals : Globals} {columns : List Column} {start : Token}
    {starts : List Token} {fault : ParseFault}
    (h : (finish globals columns start starts).result = .error fault) :
    ∃ found, found ≠ [] ∧ fault = .rejected found := by
  obtain ⟨hne, rfl⟩ := finish_eq_error_iff.mp h
  exact ⟨_, hne, rfl⟩

end TableSchema.Schema
