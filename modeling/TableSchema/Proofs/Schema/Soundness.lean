import TableSchema.Proofs.Schema.Grammar
import TableSchema.Proofs.Schema.Outcome
import TableSchema.Proofs.Schema.Tokens

namespace TableSchema

theorem Rule.Name.ofText?_text (name : Rule.Name) : ofText? name.text = some name := by
  cases name with
  | compare test => cases test <;> decide
  | _ => decide

theorem Rule.Name.text_of_ofText? {text : String} {name : Rule.Name}
    (h : ofText? text = some name) : name.text = text := by
  simpa using List.find?_some h

namespace Schema

open Grammar TableSchema.Text

/-! Arguments -/

theorem Token.terminal_eq {token : Token} {kind : TokenKind} (h : token.kind = kind) :
    token.terminal = ⟨kind, token.text⟩ := by
  rw [← h, Token.terminal]

theorem exists_cons_of_current {tokens : List Token} {kind : TokenKind}
    (h : (current tokens).kind = kind) (hkind : kind ≠ .endOfLine) :
    ∃ token rest, tokens = token :: rest ∧ token.kind = kind := by
  cases tokens with
  | nil => exact absurd h.symm hkind
  | cons token rest => exact ⟨token, rest, rfl, h⟩

theorem argumentOf?_eq_some_iff {token : Token} {argument : Argument} :
    argumentOf? token = some argument ↔ IsArgument token.terminal argument := by
  obtain ⟨kind, text, line, column⟩ := token
  constructor
  · intro h
    cases kind <;> simp only [argumentOf?, Option.some.injEq, reduceCtorEq] at h <;> subst h <;>
      constructor
  · intro h
    simp only [Token.terminal] at h
    cases h <;> rfl

theorem argumentsFrom_sound {tokens : List Token} {arguments : List Argument} {used : Nat}
    (h : (argumentsFrom tokens).result = .ok (arguments, used)) :
    ∃ inner closing rest, tokens = inner ++ closing :: rest ∧ used = inner.length + 1 ∧
      closing.kind = .closing ∧ IsArguments (inner.map Token.terminal) arguments := by
  fun_induction argumentsFrom tokens generalizing arguments used with
  | case1 => simp at h
  | case2 => simp at h
  | case3 => simp at h
  | case4 token argument ha next rest hcomma ih =>
      simp only [Parse.result_bind_eq_ok_iff, Parse.result_pure, Except.ok.injEq, Prod.mk.injEq,
        Prod.exists] at h
      obtain ⟨others, count, hr, rfl, rfl⟩ := h
      obtain ⟨inner, closing, after, rfl, rfl, hk, hi⟩ := ih hr
      refine ⟨token :: next :: inner, closing, after, rfl, by simp, hk, ?_⟩
      rw [List.map_cons, List.map_cons, Token.terminal_eq hcomma]
      exact .more (argumentOf?_eq_some_iff.mp ha) hi
  | case5 token argument ha next rest hcomma hclosing =>
      simp only [Parse.result_pure, Except.ok.injEq, Prod.mk.injEq] at h
      obtain ⟨rfl, rfl⟩ := h
      exact ⟨[token], next, rest, rfl, rfl, hclosing, .last (argumentOf?_eq_some_iff.mp ha)⟩
  | case6 => simp at h

-- What stands behind the name of a rule makes a call together with the name.
theorem arguments_sound {tokens : List Token} {found : List Argument} {used : Nat}
    (h : (arguments tokens).result = .ok (found, used)) (name : Rule.Name) :
    ∃ front rest, tokens = front ++ rest ∧ used = front.length ∧
      IsCall (⟨.word, name.text⟩ :: front.map Token.terminal) name found := by
  simp only [arguments] at h
  split at h
  · rename_i hopening
    split at h
    · rename_i hclosing
      obtain ⟨opening, inner, rfl, ho⟩ := exists_cons_of_current hopening (by decide)
      obtain ⟨closing, rest, hi, hc⟩ := exists_cons_of_current hclosing (by decide)
      rw [List.drop_one, List.tail_cons] at hi
      simp only [Parse.result_pure, Except.ok.injEq, Prod.mk.injEq] at h
      obtain ⟨rfl, rfl⟩ := h
      refine ⟨[opening, closing], rest, by simp [hi], rfl, ?_⟩
      rw [List.map_cons, List.map_singleton, Token.terminal_eq ho, Token.terminal_eq hc]
      exact .empty name _ _
    · obtain ⟨opening, tokens, rfl, ho⟩ := exists_cons_of_current hopening (by decide)
      simp only [List.drop_one, List.tail_cons, Parse.result_bind_eq_ok_iff, Parse.result_pure,
        Except.ok.injEq, Prod.mk.injEq, Prod.exists] at h
      obtain ⟨others, count, hr, rfl, rfl⟩ := h
      obtain ⟨inner, closing, rest, rfl, rfl, hc, hi⟩ := argumentsFrom_sound hr
      refine ⟨opening :: (inner ++ [closing]), rest, by simp, by simp, ?_⟩
      rw [List.map_cons, List.map_append, List.map_singleton, Token.terminal_eq ho,
        Token.terminal_eq hc]
      exact .applied name _ _ hi
  · simp only [Parse.result_pure, Except.ok.injEq, Prod.mk.injEq] at h
    obtain ⟨rfl, rfl⟩ := h
    exact ⟨[], tokens, rfl, rfl, .plain name⟩

/-! Rules -/

theorem buildRule_eq_ok {token : Token} {name : Rule.Name} {arguments : List Argument} {rule : Rule}
    (h : (buildRule token name arguments).result = .ok rule) :
    Rule.build name arguments = .ok rule := by
  simp only [buildRule] at h
  split at h
  · simp_all
  all_goals simp at h

theorem ruleAt_sound {token : Token} {rest : List Token} {rule : Rule} {used : Nat}
    (h : (ruleAt token rest).result = .ok (rule, used)) :
    token.kind = .word ∧ ∃ front after, rest = front ++ after ∧ used = front.length ∧
      IsRule ((token :: front).map Token.terminal) rule := by
  simp only [ruleAt] at h
  split at h
  · simp at h
  · rename_i hword
    rw [not_not] at hword
    split at h
    · simp at h
    · rename_i name hname
      simp only [Parse.result_bind_eq_ok_iff, Parse.result_note, Parse.result_pure, Except.ok.injEq,
        Prod.mk.injEq, Prod.exists] at h
      obtain ⟨found, count, ha, rule, hb, _, -, rfl, rfl⟩ := h
      obtain ⟨front, after, rfl, rfl, hc⟩ := arguments_sound ha name
      refine ⟨hword, front, after, rfl, rfl, .intro ?_ (buildRule_eq_ok hb)⟩
      rw [List.map_cons, Token.terminal_eq hword, ← Rule.Name.text_of_ofText? hname]
      exact hc

theorem isOr_iff {token : Token} : isOr token = true ↔ token.terminal = ⟨.word, "or"⟩ := by
  simp only [isOr, Bool.and_eq_true, beq_iff_eq, Token.terminal, Terminal.mk.injEq]

theorem join_of_depth_le {left right : Rule} (h : (Rule.or left right).depth ≤ maxDepth) :
    (join left right).result = .ok (.or left right) := by
  rw [join, if_neg (Nat.not_lt.mpr h), Parse.result_note_bind, Parse.result_pure]

theorem join_of_lt_depth {left right : Rule} (h : maxDepth < (Rule.or left right).depth) :
    (join left right).result = .error .tooDeep := by
  rw [join, if_pos h, Parse.result_abort]

theorem join_eq_ok {left right joined : Rule} (h : (join left right).result = .ok joined) :
    joined = .or left right := by
  rcases Nat.lt_or_ge maxDepth (Rule.or left right).depth with hd | hd
  · cases (join_of_lt_depth hd).symm.trans h
  · exact (Except.ok.inj ((join_of_depth_le hd).symm.trans h)).symm

theorem alternatives_sound {left rule : Rule} {tokens : List Token} {used : Nat}
    (h : (alternatives left tokens).result = .ok (rule, used)) :
    ∃ front after, tokens = front ++ after ∧ used = front.length ∧
      IsTail left (front.map Token.terminal) rule := by
  fun_induction alternatives left tokens generalizing rule used with
  | case1 left =>
      simp only [Parse.result_pure, Except.ok.injEq, Prod.mk.injEq] at h
      obtain ⟨rfl, rfl⟩ := h
      exact ⟨[], [], rfl, rfl, .nil left⟩
  | case2 left token rest hor ih =>
      simp only [Parse.result_bind_eq_ok_iff, Parse.result_pure, Except.ok.injEq,
        Prod.mk.injEq, Prod.exists] at h
      obtain ⟨right, count, hr, joined, hj, tail, more, ht, rfl, rfl⟩ := h
      obtain rfl := join_eq_ok hj
      obtain ⟨hword, front, after, hfront, rfl, hrule⟩ := ruleAt_sound hr
      obtain ⟨name, rest, rfl, -⟩ := exists_cons_of_current hword (by decide)
      simp only [List.drop_one, List.tail_cons] at hfront
      subst hfront
      obtain ⟨others, last, hlast, rfl, htail⟩ := ih _ _ ht
      simp only [List.drop_one, List.tail_cons, List.drop_left] at hlast
      subst hlast
      refine ⟨token :: name :: (front ++ others), last, by simp, by simp; omega, ?_⟩
      have h := IsTail.cons hrule htail
      simpa [isOr_iff.mp hor, current] using h
  | case3 left token rest hor =>
      simp only [Parse.result_pure, Except.ok.injEq, Prod.mk.injEq] at h
      obtain ⟨rfl, rfl⟩ := h
      exact ⟨[], token :: rest, rfl, rfl, .nil left⟩

theorem rulesFrom_sound {tokens rest : List Token} {rules : List Rule}
    (h : (rulesFrom tokens).result = .ok (rules, rest)) :
    ∃ front, tokens = front ++ rest ∧ IsExpressions (front.map Token.terminal) rules := by
  fun_induction rulesFrom tokens generalizing rules rest with
  | case1 =>
      simp only [Parse.result_pure, Except.ok.injEq, Prod.mk.injEq] at h
      obtain ⟨rfl, rfl⟩ := h
      exact ⟨[], rfl, .nil⟩
  | case2 token tokens hword ih =>
      simp only [Parse.result_bind_eq_ok_iff, Parse.result_pure, Except.ok.injEq, Prod.mk.injEq,
        Prod.exists] at h
      obtain ⟨first, used, hr, rule, more, ht, others, remaining, ho, rfl, rfl⟩ := h
      obtain ⟨-, front, after, rfl, rfl, hrule⟩ := ruleAt_sound hr
      rw [List.drop_left] at ht
      obtain ⟨tail, last, rfl, rfl, htail⟩ := alternatives_sound ht
      obtain ⟨expressions, hl, he⟩ := ih _ _ ho
      simp only [List.drop_left] at hl
      subst hl
      refine ⟨token :: (front ++ (tail ++ expressions)), by simp, ?_⟩
      have h := IsExpressions.cons ((IsExpression.rule hrule).append_tail htail) he
      simpa using h
  | case3 token tokens hword =>
      simp only [Parse.result_pure, Except.ok.injEq, Prod.mk.injEq] at h
      obtain ⟨rfl, rfl⟩ := h
      exact ⟨[], rfl, .nil⟩

/-! Directives -/

theorem directiveKey_of_directiveOf? {name : String} {directive : Directive}
    (h : directiveOf? name = some directive) :
    directiveKey ("@" ++ name) = directiveKey directive.keyword := by
  have hk := List.find?_some h
  simpa using (beq_iff_eq.mp hk).symm

theorem directivesFrom_sound {seen directives : List Directive} {tokens rest : List Token}
    (h : (directivesFrom seen tokens).result = .ok (directives, rest)) :
    ∃ front, tokens = front ++ rest ∧
      List.Forall₂ IsDirective (front.map Token.terminal) directives ∧ directives.Nodup ∧
      ∀ directive ∈ directives, directive ∉ seen := by
  induction tokens generalizing seen directives with
  | nil =>
      simp only [directivesFrom, Parse.result_pure, Except.ok.injEq, Prod.mk.injEq] at h
      obtain ⟨rfl, rfl⟩ := h
      exact ⟨[], rfl, .nil, List.nodup_nil, nofun⟩
  | cons token tokens ih =>
      simp only [directivesFrom] at h
      split at h
      · rename_i hkind
        split at h
        · simp at h
        · rename_i directive hd
          split at h
          · simp at h
          · rename_i hnew
            simp only [Parse.result_note_bind, Parse.result_bind_eq_ok_iff, Parse.result_pure,
              Except.ok.injEq, Prod.mk.injEq, Prod.exists] at h
            obtain ⟨others, remaining, ho, rfl, rfl⟩ := h
            obtain ⟨front, rfl, hwritten, hnodup, hseen⟩ := ih ho
            refine ⟨token :: front, rfl, .cons ⟨hkind, directiveKey_of_directiveOf? hd⟩ hwritten,
              List.nodup_cons.mpr ⟨fun hm => hseen _ hm (by simp), hnodup⟩, ?_⟩
            intro other hm
            rcases List.mem_cons.mp hm with rfl | hm
            · simpa using hnew
            · exact fun hs => hseen other hm (List.mem_append_left _ hs)
      · simp only [Parse.result_pure, Except.ok.injEq, Prod.mk.injEq] at h
        obtain ⟨rfl, rfl⟩ := h
        exact ⟨[], rfl, .nil, List.nodup_nil, nofun⟩

theorem kind_ne_of_terminals {tokens : List Token}
    (h : ∀ terminal ∈ tokens.map Token.terminal, terminal.kind ≠ .endOfLine) :
    ∀ token ∈ tokens, token.kind ≠ .endOfLine :=
  fun _ ht => h _ (List.mem_map_of_mem ht)

/-! Lines -/

theorem columnOf_sound {tokens : List Token} {column : Column} (hline : IsLine tokens)
    (h : (columnOf tokens).result = .ok column) : IsColumn (tokens.map Token.terminal) column := by
  simp only [columnOf] at h
  split at h
  · simp at h
  · rename_i hword
    split at h
    · simp at h
    · rename_i hcolon
      simp only [Parse.result_note_bind, Parse.result_bind_eq_ok_iff, Prod.exists] at h
      obtain ⟨rules, middle, hr, directives, rest, hd, h⟩ := h
      split at h
      · simp at h
      · rename_i hend
        simp only [Parse.result_pure, Except.ok.injEq] at h
        subst h
        rw [not_not] at hword hcolon hend
        obtain ⟨name, tokens, rfl, hn⟩ := exists_cons_of_current hword (by decide)
        obtain ⟨colon, others, ht, hc⟩ := exists_cons_of_current hcolon (by decide)
        rw [List.drop_one, List.tail_cons] at ht
        subst ht
        obtain ⟨expressions, he, hrules⟩ := rulesFrom_sound hr
        obtain ⟨written, rfl, hwritten, hnodup, -⟩ := directivesFrom_sound hd
        simp only [List.drop_succ_cons, List.drop_zero] at he
        subst he
        have hrest : IsLine rest :=
          (((hline.of_cons (by simp [hn])).of_cons (by simp [hc])).drop_front
            (kind_ne_of_terminals (hrules.kind_ne rfl))).drop_front
              (kind_ne_of_terminals fun t ht => by simp [kind_of_isDirective hwritten t ht])
        obtain ⟨mark, rfl, hm⟩ := hrest.eq_singleton hend
        simp only [List.map_cons, List.map_append, List.map_nil, Token.terminal_eq hn,
          Token.terminal_eq hc, Token.terminal_eq hm]
        exact .intro hrules hwritten hnodup

theorem optionOf?_sound {token : Token} {slots later : List GlobalOption} {option : GlobalOption}
    (h : optionOf? token slots = some (option, later)) :
    IsOption token.terminal option ∧ (option :: later).Sublist slots := by
  simp only [optionOf?] at h
  split at h
  · rename_i hkind
    have hhead := List.head?_dropWhile_not (fun slot => slot.key != directiveKey token.text) slots
    have hsub := List.dropWhile_sublist (l := slots) fun slot => slot.key != directiveKey token.text
    split at h
    · cases h
    · rename_i slot rest hs
      obtain ⟨rfl, rfl⟩ := Prod.mk.inj (Option.some.inj h)
      rw [hs] at hhead hsub
      simp only [List.head?_cons, bne_eq_false_iff_eq] at hhead
      exact ⟨⟨hkind, hhead.symm⟩, hsub⟩
  · cases h

theorem globalOptions_sound {slots options : List GlobalOption} {tokens : List Token}
    (hline : IsLine tokens) (h : (globalOptions slots tokens).result = .ok options) :
    ∃ written mark, tokens = written ++ [mark] ∧ mark.kind = .endOfLine ∧
      List.Forall₂ IsOption (written.map Token.terminal) options ∧ options.Sublist slots := by
  induction hline generalizing slots options with
  | @stop token hk =>
      simp only [globalOptions, hk, if_true, Parse.result_pure, Except.ok.injEq] at h
      subst h
      exact ⟨[], token, rfl, hk, .nil, List.nil_sublist _⟩
  | @more token rest hk hrest ih =>
      simp only [globalOptions, hk, if_false] at h
      split at h
      · simp at h
      · rename_i option later ho
        simp only [Parse.result_note_bind, Parse.result_bind_eq_ok_iff, Parse.result_pure,
          Except.ok.injEq] at h
        obtain ⟨others, hr, rfl⟩ := h
        obtain ⟨hoption, hsub⟩ := optionOf?_sound ho
        obtain ⟨written, mark, rfl, hm, hwritten, hothers⟩ := ih hr
        exact ⟨token :: written, mark, rfl, hm, .cons hoption hwritten,
          (hothers.cons_cons option).trans hsub⟩

theorem totalOf_sound {token : Token} {total : Nat} (h : (totalOf token).result = .ok total) :
    IsTotal token.terminal total ∧ token.text.toList.length ≤ totalLimit := by
  simp only [totalOf] at h
  split at h
  · simp at h
  · rename_i hword
    split at h
    · simp at h
    · rename_i hlimit
      split at h
      · simp at h
      · rename_i hpositive
        simp only [Parse.result_pure, Except.ok.injEq] at h
        simp only [not_or, not_not, List.isEmpty_iff, Bool.not_eq_true, Bool.not_eq_false',
          List.all_eq_true] at hword
        exact ⟨⟨hword.1, hword.2.1, hword.2.2, h.symm, by omega⟩, by omega⟩

theorem globalsOf_sound {tokens : List Token} {globals : Globals} (hline : IsLine tokens)
    (h : (globalsOf tokens).result = .ok globals) : IsGlobals (tokens.map Token.terminal) globals := by
  simp only [globalsOf] at h
  split at h
  · rename_i htotal
    simp only [Parse.result_bind_eq_ok_iff, Parse.result_note, Parse.result_pure, Except.ok.injEq] at h
    obtain ⟨total, ht, _, -, options, ho, rfl⟩ := h
    simp only [isTotalColumns, Bool.and_eq_true, beq_iff_eq] at htotal
    obtain ⟨name, tokens, rfl, hn⟩ := exists_cons_of_current htotal.1 (by decide)
    obtain ⟨hcount, -⟩ := totalOf_sound ht
    simp only [List.drop_one, List.tail_cons] at hcount ho
    obtain ⟨count, rest, rfl, hc⟩ := exists_cons_of_current hcount.word (by decide)
    have hrest : IsLine rest := (hline.of_cons (by simp [hn])).of_cons (by simp [hc])
    obtain ⟨written, mark, rfl, hm, hwritten, hsub⟩ := globalOptions_sound hrest ho
    simp only [List.map_cons, List.map_append, List.map_nil, Token.terminal_eq hn,
      Token.terminal_eq hm]
    exact .intro htotal.2 hcount hwritten hsub
  · simp at h

/-! The whole text -/

theorem columnsOf_sound {lines : List Line} {columns : List Column}
    (hlines : ∀ line ∈ lines, IsLine line.tokens) (h : (columnsOf lines).result = .ok columns) :
    List.Forall₂ IsColumn (lines.map fun line => line.tokens.map Token.terminal) columns := by
  induction lines generalizing columns with
  | nil =>
      simp only [columnsOf, Parse.result_pure, Except.ok.injEq] at h
      subst h
      exact .nil
  | cons line lines ih =>
      simp only [columnsOf, Parse.result_note_bind, Parse.result_bind_eq_ok_iff, Parse.result_pure,
        Except.ok.injEq] at h
      obtain ⟨first, hf, others, ho, rfl⟩ := h
      exact .cons (columnOf_sound (hlines line (by simp)) hf)
        (ih (fun l hl => hlines l (List.mem_cons_of_mem _ hl)) ho)

-- The checks of the whole schema find nothing exactly if its total is right and
-- its references are defined.
theorem diagnostics_eq_nil_iff {total : Nat} {columns : List Column} {start : Token}
    {starts : List Token} (hlength : starts.length = columns.length) :
    diagnostics total columns start starts = [] ↔
      columns.length = total ∧ ReferencesDefined columns := by
  have hcolumn : ∀ (names : List String) (column : Column) (token : Token),
      referenceDiagnostics names column token = [] ↔
        ∀ rule ∈ column.rules, ∀ name ∈ rule.references, name ∈ names := by
    simp [referenceDiagnostics]
  simp only [diagnostics, List.append_eq_nil_iff, List.flatMap_eq_nil_iff, hcolumn]
  refine and_congr (by simp) ?_
  constructor
  · intro h column hm
    rw [← @List.map_fst_zip _ _ columns starts (Nat.le_of_eq hlength.symm), List.mem_map] at hm
    obtain ⟨entry, he, rfl⟩ := hm
    exact h entry he
  · exact fun h entry he => h entry.1 (List.of_mem_zip he).1

-- The lines that are not blank, with their tokens, if the first one has the number.
def numbered (start : Nat) (lines : List (List Char)) : List Line :=
  (lines.zipIdx start).filterMap fun (line, number) =>
    if isBlankLine line then none else some { number, tokens := tokenize line number }

theorem isLine_numbered {start : Nat} {lines : List (List Char)} :
    ∀ line ∈ numbered start lines, IsLine line.tokens := by
  intro line hm
  obtain ⟨⟨cs, number⟩, -, hsome⟩ := List.mem_filterMap.mp hm
  dsimp only at hsome
  split at hsome
  · cases hsome
  · obtain rfl := Option.some.inj hsome
    exact isLine_tokenize cs number

theorem isLine_linesOf (text : List Char) : ∀ line ∈ linesOf text, IsLine line.tokens :=
  @isLine_numbered 1 (splitLines (dropByteOrderMark text))

theorem finish_eq_ok_iff {globals : Globals} {columns : List Column} {start : Token}
    {starts : List Token} {schema : Schema} :
    (finish globals columns start starts).result = .ok schema ↔
      diagnostics globals.total columns start starts = [] ∧
        schema = {
          hasHeader := !globals.options.contains .noHeader
          permitEmpty := globals.options.contains .permitEmpty
          columns } := by
  simp only [finish]
  split
  · rename_i h
    simp [List.isEmpty_iff.mp h, eq_comm]
  · rename_i h
    simp [mt List.isEmpty_iff.mpr h]

theorem finish_eq_error_iff {globals : Globals} {columns : List Column} {start : Token}
    {starts : List Token} {fault : ParseFault} :
    (finish globals columns start starts).result = .error fault ↔
      diagnostics globals.total columns start starts ≠ [] ∧
        fault = .rejected (diagnostics globals.total columns start starts) := by
  simp only [finish]
  split
  · rename_i h
    simp [List.isEmpty_iff.mp h]
  · rename_i h
    simp [mt List.isEmpty_iff.mpr h, eq_comm]

-- The parts of a text that the parser accepts.
theorem exists_parts_of_parse {text : String} {schema : Schema}
    (h : (parse text).result = .ok schema) :
    ∃ first lines globals columns, linesOf text.toList = first :: lines ∧
      (globalsOf first.tokens).result = .ok globals ∧ (columnsOf lines).result = .ok columns ∧
      columns.length = globals.total ∧ ReferencesDefined columns ∧
      schema = {
        hasHeader := !globals.options.contains .noHeader
        permitEmpty := globals.options.contains .permitEmpty
        columns } := by
  have hlines := isLine_linesOf text.toList
  simp only [parse] at h
  cases hl : linesOf text.toList with
  | nil => simp [hl, schemaOf] at h
  | cons first lines =>
      rw [hl] at h hlines
      simp only [schemaOf, Parse.result_note_bind, Parse.result_bind_eq_ok_iff] at h
      obtain ⟨globals, hg, columns, hc, hf⟩ := h
      have hcolumns := columnsOf_sound (fun l hm => hlines l (List.mem_cons_of_mem _ hm)) hc
      obtain ⟨hd, hschema⟩ := finish_eq_ok_iff.mp hf
      rw [diagnostics_eq_nil_iff (by simpa using hcolumns.length_eq)] at hd
      exact ⟨first, lines, globals, columns, rfl, hg, hc, hd.1, hd.2, hschema⟩

-- What the parser accepts is a schema of the grammar.
theorem denotes_of_parse {text : String} {schema : Schema} (h : (parse text).result = .ok schema) :
    Denotes text schema := by
  obtain ⟨first, lines, globals, columns, hl, hg, hc, htotal, hreferences, rfl⟩ :=
    exists_parts_of_parse h
  have hlines := isLine_linesOf text.toList
  rw [hl] at hlines
  exact .intro (by rw [terminals, hl, List.map_cons]) (globalsOf_sound (hlines first (by simp)) hg)
    (columnsOf_sound (fun l hm => hlines l (List.mem_cons_of_mem _ hm)) hc) htotal hreferences

end Schema

end TableSchema
