import TableSchema.Proofs.Schema.Layout

namespace TableSchema.Schema

open Grammar TableSchema.Text

/-! Places of failures -/

-- The diagnostic says where the token begins.
def Diagnostic.Marks (diagnostic : Diagnostic) (token : Token) : Prop :=
  diagnostic.line = token.line ∧ diagnostic.column = token.column

-- Where a part of the parser fails at the syntax, it marks one of the tokens.
def Parse.FailsWithin {α : Type} (tokens : List Token) (parse : Parse α) : Prop :=
  ∀ diagnostic, parse.result = .error (.syntaxError diagnostic) →
    ∃ token ∈ tokens, diagnostic.Marks token

namespace Parse.FailsWithin

variable {α β : Type} {tokens : List Token}

theorem pure (value : α) : FailsWithin tokens (Pure.pure value) := nofun

theorem fail {token : Token} (h : token ∈ tokens) (cause : Cause) :
    FailsWithin tokens (Parse.fail cause token : Parse α) := by
  intro diagnostic hd
  obtain rfl := ParseFault.syntaxError.inj (Except.error.inj hd)
  exact ⟨token, h, rfl, rfl⟩

theorem abort {fault : ParseFault} (h : fault.isSyntax = false) :
    FailsWithin tokens (Parse.abort fault : Parse α) := by
  intro diagnostic hd
  obtain rfl := Except.error.inj hd
  cases h

theorem bind {first : Parse α} {next : α → Parse β} (hfirst : FailsWithin tokens first)
    (hnext : ∀ value, first.result = .ok value → FailsWithin tokens (next value)) :
    FailsWithin tokens (first >>= next) := by
  intro diagnostic hd
  rcases Parse.result_bind_eq_error_iff.mp hd with hd | ⟨value, hvalue, hd⟩
  · exact hfirst diagnostic hd
  · exact hnext value hvalue diagnostic hd

theorem note_bind {step : Step} {next : Unit → Parse β} (h : FailsWithin tokens (next ())) :
    FailsWithin tokens (note step >>= next) :=
  bind (pure ()) fun _ _ => h

theorem mono {parse : Parse α} {others : List Token} (h : FailsWithin tokens parse)
    (hsub : tokens ⊆ others) : FailsWithin others parse := by
  intro diagnostic hd
  obtain ⟨token, hm, hmarks⟩ := h diagnostic hd
  exact ⟨token, hsub hm, hmarks⟩

end Parse.FailsWithin

theorem IsLine.current_mem {tokens : List Token} (h : IsLine tokens) : current tokens ∈ tokens := by
  cases h <;> exact List.mem_cons_self

/-! Rules -/

theorem argumentsFrom_failsWithin {tokens : List Token} (hline : IsLine tokens) :
    Parse.FailsWithin tokens (argumentsFrom tokens) := by
  fun_induction argumentsFrom tokens with
  | case1 => cases hline
  | case2 token after hnone => exact .fail List.mem_cons_self _
  | case3 token argument hsome =>
      -- A single token marks the end of the line, and is no argument.
      cases hline with
      | stop hend => exact absurd hend ((argumentOf?_eq_some_iff.mp hsome).kind_ne rfl)
      | more _ hrest => cases hrest
  | case4 token argument hsome next rest hcomma ih =>
      have hrest : IsLine rest :=
        (hline.of_cons ((argumentOf?_eq_some_iff.mp hsome).kind_ne rfl)).of_cons (by simp [hcomma])
      refine ((ih hrest).mono ?_).bind fun _ _ => .pure _
      exact fun t ht => List.mem_cons_of_mem _ (List.mem_cons_of_mem _ ht)
  | case5 => exact .pure _
  | case6 token argument hsome next rest hcomma hclosing =>
      exact .fail (List.mem_cons_of_mem _ List.mem_cons_self) _

theorem arguments_failsWithin {tokens : List Token} (hline : IsLine tokens) :
    Parse.FailsWithin tokens (arguments tokens) := by
  simp only [arguments]
  split
  · rename_i hopening
    obtain ⟨opening, inner, rfl, ho⟩ := exists_cons_of_current hopening (by decide)
    split
    · exact .pure _
    · have hinner := argumentsFrom_failsWithin (hline.of_cons (by simp [ho]))
      exact (hinner.mono (List.subset_cons_self _ _)).bind fun _ _ => .pure _
  · exact .pure _

theorem buildRule_failsWithin (token : Token) (name : Rule.Name) (arguments : List Argument) :
    Parse.FailsWithin [token] (buildRule token name arguments) := by
  simp only [buildRule]
  split
  · exact .pure _
  · exact .fail List.mem_cons_self _
  · exact .fail List.mem_cons_self _
  · exact .abort rfl
  · exact .abort rfl

theorem ruleAt_failsWithin {token : Token} {rest : List Token} (hline : IsLine (token :: rest)) :
    Parse.FailsWithin (token :: rest) (ruleAt token rest) := by
  simp only [ruleAt]
  split
  · exact .fail List.mem_cons_self _
  · rename_i hword
    rw [not_not] at hword
    have hrest : IsLine rest := hline.of_cons (by simp [hword])
    split
    · exact .fail List.mem_cons_self _
    · refine ((arguments_failsWithin hrest).mono (List.subset_cons_self _ _)).bind fun found _ => ?_
      refine ((buildRule_failsWithin token _ _).mono ?_).bind fun rule _ => .note_bind (.pure _)
      exact List.cons_subset_cons _ (List.nil_subset _)

-- Behind a rule the line goes on.
theorem isLine_of_ruleAt {token : Token} {rest : List Token} {rule : Rule} {used : Nat}
    (hline : IsLine (token :: rest)) (h : (ruleAt token rest).result = .ok (rule, used)) :
    IsLine (rest.drop used) := by
  obtain ⟨-, front, after, rfl, rfl, hcall, -⟩ := ruleAt_sound h
  rw [List.drop_left]
  exact (hline : IsLine (token :: front ++ after)).drop_front (kind_ne_of_terminals (hcall.kind_ne rfl))

theorem join_failsWithin (left right : Rule) (tokens : List Token) :
    Parse.FailsWithin tokens (join left right) := by
  rw [join]
  split
  · exact .abort rfl
  · exact .note_bind (.pure _)

theorem alternatives_failsWithin {left : Rule} {tokens : List Token} (hline : IsLine tokens) :
    Parse.FailsWithin tokens (alternatives left tokens) := by
  fun_induction alternatives left tokens with
  | case1 => exact .pure _
  | case2 left token rest hor ih =>
      have hword : token.kind = .word := congrArg Terminal.kind (isOr_iff.mp hor)
      have hrest : IsLine rest := hline.of_cons (by simp [hword])
      obtain ⟨next, others, rfl⟩ := List.exists_cons_of_ne_nil (List.ne_nil_of_mem hrest.current_mem)
      simp only [current, List.headD_cons, List.drop_one, List.tail_cons] at ih ⊢
      have hnext := (ruleAt_failsWithin hrest).mono (List.subset_cons_self token _)
      refine hnext.bind fun found hrule => ?_
      obtain ⟨right, used⟩ := found
      refine (join_failsWithin left right _).bind fun joined _ => ?_
      have hbehind := ih used joined (isLine_of_ruleAt hrest hrule)
      refine (hbehind.mono fun t ht => ?_).bind fun _ _ => .pure _
      exact List.mem_cons_of_mem _ (List.mem_cons_of_mem _ (List.mem_of_mem_drop ht))
  | case3 => exact .pure _

theorem rulesFrom_failsWithin {tokens : List Token} (hline : IsLine tokens) :
    Parse.FailsWithin tokens (rulesFrom tokens) := by
  fun_induction rulesFrom tokens with
  | case1 => exact .pure _
  | case2 token rest hword ih =>
      refine (ruleAt_failsWithin hline).bind fun found hfirst => ?_
      obtain ⟨first, used⟩ := found
      have hbehind := isLine_of_ruleAt hline hfirst
      refine ((alternatives_failsWithin hbehind).mono ?_).bind fun joined halternatives => ?_
      · exact fun t ht => List.mem_cons_of_mem _ (List.mem_of_mem_drop ht)
      · obtain ⟨rule, more⟩ := joined
        obtain ⟨-, front, after, rfl, rfl, hrule⟩ := ruleAt_sound hfirst
        have hlast := ih front.length more
        simp only [List.drop_left] at halternatives hlast ⊢
        obtain ⟨tail, last, rfl, rfl, htail⟩ := alternatives_sound halternatives
        have hexpression := (IsExpression.rule hrule).append_tail htail
        rw [← List.map_append] at hexpression
        have hkind := kind_ne_of_terminals (hexpression.kind_ne rfl)
        have hline' : IsLine ((token :: front ++ tail) ++ last) := by simpa using hline
        simp only [List.drop_left] at hlast ⊢
        refine ((hlast (hline'.drop_front hkind)).mono ?_).bind fun _ _ => .pure _
        exact fun t ht => by simp [ht]
  | case3 => exact .pure _

/-! Lines -/

theorem directivesFrom_failsWithin (seen : List Directive) (tokens : List Token) :
    Parse.FailsWithin tokens (directivesFrom seen tokens) := by
  fun_induction directivesFrom seen tokens with
  | case1 => exact .pure _
  | case2 => exact .fail List.mem_cons_self _
  | case3 => exact .fail List.mem_cons_self _
  | case4 _ _ _ _ _ _ _ ih =>
      exact .note_bind ((ih.mono (List.subset_cons_self _ _)).bind fun _ _ => .pure _)
  | case5 => exact .pure _

theorem columnOf_failsWithin {tokens : List Token} (hline : IsLine tokens) :
    Parse.FailsWithin tokens (columnOf tokens) := by
  simp only [columnOf]
  split
  · exact .fail hline.current_mem _
  · rename_i hword
    rw [not_not] at hword
    obtain ⟨name, behind, rfl, hn⟩ := exists_cons_of_current hword (by decide)
    have hbehind : IsLine behind := hline.of_cons (by simp [hn])
    split
    · exact .fail (List.mem_cons_of_mem _ hbehind.current_mem) _
    · rename_i hcolon
      rw [not_not] at hcolon
      obtain ⟨colon, body, hb, hc⟩ := exists_cons_of_current hcolon (by decide)
      obtain rfl : behind = colon :: body := hb
      have hbody : IsLine body := hbehind.of_cons (by simp [hc])
      have hsub : body ⊆ name :: colon :: body :=
        fun t ht => List.mem_cons_of_mem _ (List.mem_cons_of_mem _ ht)
      simp only [List.drop_succ_cons, List.drop_zero]
      refine .note_bind (((rulesFrom_failsWithin hbody).mono hsub).bind fun found hrules => ?_)
      obtain ⟨rules, rest⟩ := found
      obtain ⟨expressions, rfl, he⟩ := rulesFrom_sound hrules
      have hrest := hbody.drop_front (kind_ne_of_terminals (he.kind_ne rfl))
      have hsub' : rest ⊆ name :: colon :: (expressions ++ rest) :=
        fun t ht => hsub (List.mem_append_right _ ht)
      refine ((directivesFrom_failsWithin [] rest).mono hsub').bind fun found hd => ?_
      obtain ⟨directives, last⟩ := found
      obtain ⟨written, rfl, hwritten, -⟩ := directivesFrom_sound hd
      have hlast := hrest.drop_front
        (kind_ne_of_terminals fun t ht => by simp [kind_of_isDirective hwritten t ht])
      dsimp only
      split
      · exact .fail (hsub' (List.mem_append_right _ hlast.current_mem)) _
      · exact .pure _

theorem globalOptions_failsWithin (slots : List GlobalOption) (tokens : List Token) :
    Parse.FailsWithin tokens (globalOptions slots tokens) := by
  fun_induction globalOptions slots tokens with
  | case1 => exact .pure _
  | case2 => exact .pure _
  | case3 => exact .fail List.mem_cons_self _
  | case4 _ _ _ _ _ _ _ ih =>
      exact .note_bind ((ih.mono (List.subset_cons_self _ _)).bind fun _ _ => .pure _)

theorem totalOf_failsWithin (token : Token) : Parse.FailsWithin [token] (totalOf token) := by
  simp only [totalOf]
  split
  · exact .fail List.mem_cons_self _
  · split
    · exact .abort rfl
    · split
      · exact .fail List.mem_cons_self _
      · exact .pure _

theorem globalsOf_failsWithin {tokens : List Token} (hline : IsLine tokens) :
    Parse.FailsWithin tokens (globalsOf tokens) := by
  simp only [globalsOf]
  split
  · rename_i htotal
    simp only [isTotalColumns, Bool.and_eq_true, beq_iff_eq] at htotal
    obtain ⟨name, rest, rfl, hn⟩ := exists_cons_of_current htotal.1 (by decide)
    have hrest : IsLine rest := hline.of_cons (by simp [hn])
    have hcount : [current rest] ⊆ name :: rest :=
      List.cons_subset.mpr ⟨List.mem_cons_of_mem _ hrest.current_mem, List.nil_subset _⟩
    have hoptions : rest.drop 1 ⊆ name :: rest :=
      fun t ht => List.mem_cons_of_mem _ (List.mem_of_mem_drop ht)
    refine ((totalOf_failsWithin (current rest)).mono hcount).bind fun total _ => .note_bind ?_
    exact ((globalOptions_failsWithin _ _).mono hoptions).bind fun _ _ => .pure _
  · exact .fail hline.current_mem _

theorem columnsOf_failsWithin {lines : List Line} (hlines : ∀ line ∈ lines, IsLine line.tokens) :
    Parse.FailsWithin (lines.flatMap Line.tokens) (columnsOf lines) := by
  induction lines with
  | nil => exact .pure _
  | cons line lines ih =>
      obtain ⟨hline, hlines⟩ := List.forall_mem_cons.mp hlines
      rw [List.flatMap_cons]
      have hfirst := (columnOf_failsWithin hline).mono
        (List.subset_append_left _ (lines.flatMap Line.tokens))
      have hothers := (ih hlines).mono (List.subset_append_right line.tokens _)
      exact .note_bind (hfirst.bind fun _ _ => hothers.bind fun _ _ => .pure _)

theorem finish_failsWithin (globals : Globals) (columns : List Column) (start : Token)
    (starts tokens : List Token) :
    Parse.FailsWithin tokens (finish globals columns start starts) := by
  intro diagnostic h
  obtain ⟨found, -, heq⟩ := finish_fault h
  cases heq

theorem schemaOf_failsWithin {lines : List Line} (hne : lines ≠ [])
    (hlines : ∀ line ∈ lines, IsLine line.tokens) :
    Parse.FailsWithin (lines.flatMap Line.tokens) (schemaOf lines) := by
  obtain ⟨first, others, rfl⟩ := List.exists_cons_of_ne_nil hne
  obtain ⟨hfirst, hothers⟩ := List.forall_mem_cons.mp hlines
  rw [List.flatMap_cons]
  have hglobals := (globalsOf_failsWithin hfirst).mono
    (List.subset_append_left _ (others.flatMap Line.tokens))
  have hcolumns := (columnsOf_failsWithin hothers).mono (List.subset_append_right first.tokens _)
  refine .note_bind (hglobals.bind fun globals _ => hcolumns.bind fun columns _ => ?_)
  exact finish_failsWithin _ _ _ _ _

/-! Lines in front of other lines -/

theorem columnsOf_append_of_error {front : List Line} {fault : ParseFault}
    (h : (columnsOf front).result = .error fault) (back : List Line) :
    (columnsOf (front ++ back)).result = .error fault := by
  induction front with
  | nil => cases h
  | cons line front ih =>
      simp only [List.cons_append, columnsOf, Parse.result_note_bind] at h ⊢
      rcases Parse.result_bind_eq_error_iff.mp h with h | ⟨first, hfirst, h⟩
      · exact Parse.result_bind_of_error h _
      · rw [Parse.result_bind_of_ok hfirst]
        exact Parse.result_bind_of_error (ih (Parse.result_eq_error_of_bind h fun _ => ⟨_, rfl⟩)) _

theorem columnsOf_append_cases {front back : List Line} {fault : ParseFault}
    (h : (columnsOf (front ++ back)).result = .error fault) :
    (columnsOf front).result = .error fault ∨ (columnsOf back).result = .error fault := by
  induction front with
  | nil => exact .inr h
  | cons line front ih =>
      simp only [List.cons_append, columnsOf, Parse.result_note_bind] at h ⊢
      rcases Parse.result_bind_eq_error_iff.mp h with h | ⟨first, hfirst, h⟩
      · exact .inl (Parse.result_bind_of_error h _)
      · rw [Parse.result_bind_of_ok hfirst]
        have h := Parse.result_eq_error_of_bind h fun _ => ⟨_, rfl⟩
        exact (ih h).imp (fun h => Parse.result_bind_of_error h _) id

-- The checks of the whole schema are the only part that sees all lines, so that a
-- fault which they do not find is there whatever lines follow.
theorem schemaOf_append_of_error {front : List Line} {fault : ParseFault} (hne : front ≠ [])
    (h : (schemaOf front).result = .error fault) (hfault : ∀ found, fault ≠ .rejected found)
    (back : List Line) : (schemaOf (front ++ back)).result = .error fault := by
  obtain ⟨first, others, rfl⟩ := List.exists_cons_of_ne_nil hne
  simp only [List.cons_append, schemaOf, Parse.result_note_bind] at h ⊢
  rcases Parse.result_bind_eq_error_iff.mp h with h | ⟨globals, hglobals, h⟩
  · exact Parse.result_bind_of_error h _
  · rw [Parse.result_bind_of_ok hglobals]
    rcases Parse.result_bind_eq_error_iff.mp h with h | ⟨columns, -, h⟩
    · exact Parse.result_bind_of_error (columnsOf_append_of_error h back) _
    · obtain ⟨found, -, rfl⟩ := finish_fault h
      exact absurd rfl (hfault found)

-- Such a fault is one of the lines in front, or else one of those behind them.
theorem schemaOf_append_cases {front back : List Line} {fault : ParseFault} (hne : front ≠ [])
    (h : (schemaOf (front ++ back)).result = .error fault)
    (hfault : ∀ found, fault ≠ .rejected found) :
    (schemaOf front).result = .error fault ∨ (columnsOf back).result = .error fault := by
  obtain ⟨first, others, rfl⟩ := List.exists_cons_of_ne_nil hne
  simp only [List.cons_append, schemaOf, Parse.result_note_bind] at h ⊢
  rcases Parse.result_bind_eq_error_iff.mp h with h | ⟨globals, hglobals, h⟩
  · exact .inl (Parse.result_bind_of_error h _)
  · rw [Parse.result_bind_of_ok hglobals]
    rcases Parse.result_bind_eq_error_iff.mp h with h | ⟨columns, -, h⟩
    · exact (columnsOf_append_cases h).imp (fun h => Parse.result_bind_of_error h _) id
    · obtain ⟨found, -, rfl⟩ := finish_fault h
      exact absurd rfl (hfault found)

/-! Numbered lines -/

theorem linesOf_eq_numbered (text : String) : linesOf text.toList = numbered 1 (textLines text) :=
  rfl

theorem numbered_append (start : Nat) (front back : List (List Char)) :
    numbered start (front ++ back) = numbered start front ++ numbered (start + front.length) back := by
  rw [numbered, List.zipIdx_append, List.filterMap_append]
  rfl

theorem numbered_ne_nil {start : Nat} {lines : List (List Char)}
    (h : ∃ line ∈ lines, isBlankLine line = false) : numbered start lines ≠ [] := by
  obtain ⟨line, hm, hblank⟩ := h
  obtain ⟨index, hindex⟩ := List.mem_iff_getElem?.mp hm
  have hentry : (line, start + index) ∈ lines.zipIdx start :=
    List.mk_add_mem_zipIdx_iff_getElem?.mpr hindex
  have hline : ⟨start + index, tokenize line (start + index)⟩ ∈ numbered start lines :=
    List.mem_filterMap.mpr ⟨_, hentry, by simp [hblank]⟩
  exact List.ne_nil_of_mem hline

theorem line_of_mem_tokensFrom {line column skip : Nat} {text : List Char} :
    ∀ token ∈ tokensFrom line column skip text, token.line = line := by
  induction text generalizing column skip with
  | nil => simp [tokensFrom]
  | cons c rest ih =>
      cases skip with
      | succ skip => exact ih
      | zero =>
          simp only [tokensFrom]
          split
          · exact ih
          · exact List.forall_mem_cons.mpr ⟨rfl, ih⟩

-- The diagnostic stands on a line that is not blank, where a token begins or behind
-- the last character. Lines and columns are counted from one.
structure Diagnostic.IsOn (diagnostic : Diagnostic) (line : List Char) : Prop where
  visible : isBlankLine line = false
  column : (∃ token ∈ tokenize line diagnostic.line, token.kind ≠ .endOfLine ∧
    diagnostic.column = token.column) ∨ diagnostic.column = line.length + 1

theorem isOn_of_marks {diagnostic : Diagnostic} {start : Nat} {lines : List (List Char)}
    {token : Token} (hm : token ∈ (numbered (start + 1) lines).flatMap Line.tokens)
    (hmarks : diagnostic.Marks token) :
    ∃ index line, diagnostic.line = start + index + 1 ∧ lines[index]? = some line ∧
      diagnostic.IsOn line := by
  obtain ⟨_, hline, ht⟩ := List.mem_flatMap.mp hm
  obtain ⟨⟨line, number⟩, hentry, hsome⟩ := List.mem_filterMap.mp hline
  dsimp only at hsome
  split at hsome
  · cases hsome
  · rename_i hblank
    obtain rfl := Option.some.inj hsome
    obtain ⟨hle, hindex⟩ := List.mk_mem_zipIdx_iff_le_and_getElem?_sub.mp hentry
    obtain ⟨hnumber, hcolumn⟩ := hmarks
    rw [line_of_mem_tokensFrom token ht] at hnumber
    refine ⟨number - (start + 1), line, by omega, hindex, by simpa using hblank, ?_⟩
    obtain ⟨tokens, hkind, htokens⟩ := (tiles_tokensFrom number 1 line).exists_concat
    have ht' : token ∈ tokensFrom number 1 0 line := ht
    rw [htokens] at ht'
    rw [hnumber]
    rcases List.mem_append.mp ht' with hfront | hlast
    · exact .inl ⟨token, ht, hkind token hfront, hcolumn⟩
    · obtain rfl := List.mem_singleton.mp hlast
      exact .inr (hcolumn.trans (Nat.add_comm 1 _))

/-! The first fault of a text -/

-- The parser stops at the diagnostic: it is there as long as the lines up to its own
-- are, and the lines before it have no fault but what the checks of a whole schema find.
structure StopsAt (text : String) (diagnostic : Diagnostic) : Prop where
  place : 1 ≤ diagnostic.line ∧
    ∃ line, (textLines text)[diagnostic.line - 1]? = some line ∧ diagnostic.IsOn line
  settled : ∀ other : String,
    (textLines other).take diagnostic.line = (textLines text).take diagnostic.line →
      (parse other).result = .error (.syntaxError diagnostic)
  first : ∀ front : String, textLines front = (textLines text).take (diagnostic.line - 1) →
    (∃ line ∈ textLines front, isBlankLine line = false) →
      ∀ fault, (parse front).result = .error fault → ∃ found, fault = .rejected found

theorem syntaxError_ne_rejected (diagnostic : Diagnostic) (found : List Diagnostic) :
    ParseFault.syntaxError diagnostic ≠ .rejected found :=
  nofun

-- A fault of the syntax in numbered lines stands on one of them.
theorem schemaOf_isOn {lines : List (List Char)} {diagnostic : Diagnostic}
    (hne : numbered 1 lines ≠ [])
    (h : (schemaOf (numbered 1 lines)).result = .error (.syntaxError diagnostic)) :
    ∃ index line, diagnostic.line = index + 1 ∧ lines[index]? = some line ∧
      diagnostic.IsOn line := by
  obtain ⟨token, hm, hmarks⟩ := schemaOf_failsWithin hne isLine_numbered diagnostic h
  have hon := @isOn_of_marks diagnostic 0 lines token hm hmarks
  simpa using hon

-- The lines behind its own have no part in it.
theorem schemaOf_take {lines : List (List Char)} {diagnostic : Diagnostic}
    (hne : numbered 1 (lines.take diagnostic.line) ≠ [])
    (h : (schemaOf (numbered 1 lines)).result = .error (.syntaxError diagnostic)) :
    (schemaOf (numbered 1 (lines.take diagnostic.line))).result =
      .error (.syntaxError diagnostic) := by
  rw [← List.take_append_drop diagnostic.line lines, numbered_append] at h
  rcases schemaOf_append_cases hne h (syntaxError_ne_rejected diagnostic) with hfront | hback
  · exact hfront
  · rw [Nat.add_comm] at hback
    obtain ⟨token, hm, hmarks⟩ := columnsOf_failsWithin isLine_numbered diagnostic hback
    obtain ⟨index, line, hnumber, hindex, -⟩ := isOn_of_marks hm hmarks
    -- Some line follows the first ones, so that they are as many as asked for.
    have hlength : index < (lines.drop diagnostic.line).length := (List.getElem?_eq_some_iff.mp hindex).1
    rw [List.length_drop] at hlength
    rw [List.length_take] at hnumber
    omega

theorem syntaxFault_stopsAt (text : String) (fault : ParseFault)
    (hvisible : ∃ line ∈ textLines text, isBlankLine line = false)
    (h : (parse text).result = .error fault) (hkind : fault.isSyntax = true) :
    ∃ diagnostic, fault = .syntaxError diagnostic ∧ fault.messages = [diagnostic.toMessage] ∧
      StopsAt text diagnostic := by
  cases fault with
  | syntaxError diagnostic =>
      refine ⟨diagnostic, rfl, rfl, ?_⟩
      rw [parse, linesOf_eq_numbered] at h
      obtain ⟨index, line, hnumber, hindex, hon⟩ := schemaOf_isOn (numbered_ne_nil hvisible) h
      have hmem : line ∈ (textLines text).take diagnostic.line :=
        List.mem_take_iff_getElem.mpr (by
          obtain ⟨hlt, heq⟩ := List.getElem?_eq_some_iff.mp hindex
          exact ⟨index, by omega, heq⟩)
      have hne : numbered 1 ((textLines text).take diagnostic.line) ≠ [] :=
        numbered_ne_nil ⟨line, hmem, hon.visible⟩
      constructor
      case place =>
        refine ⟨by omega, line, ?_, hon⟩
        rwa [hnumber, Nat.add_sub_cancel]
      case settled =>
        intro other heq
        have hcommon := schemaOf_take hne h
        rw [← heq] at hcommon hne
        rw [parse, linesOf_eq_numbered, ← List.take_append_drop diagnostic.line (textLines other),
          numbered_append]
        exact schemaOf_append_of_error hne hcommon (syntaxError_ne_rejected diagnostic) _
      case first =>
        intro front heq hvisible' other hother
        by_contra hnot
        rw [not_exists] at hnot
        rw [parse, linesOf_eq_numbered] at hother
        have hne' : numbered 1 (textLines front) ≠ [] := numbered_ne_nil hvisible'
        -- The fault of the front would be the one of the text, on a line of the front.
        have hlater := schemaOf_append_of_error hne' hother hnot
          (numbered (1 + (textLines front).length) ((textLines text).drop (diagnostic.line - 1)))
        rw [← numbered_append, heq, List.take_append_drop, h] at hlater
        obtain rfl := Except.error.inj hlater
        obtain ⟨index', line', hnumber', hindex', -⟩ := schemaOf_isOn hne' hother
        have hlt := (List.getElem?_eq_some_iff.mp hindex').1
        rw [heq, List.length_take] at hlt
        omega
  | _ => cases hkind

-- The directive in front of the rule is the first of two faults.
def stumblingText : String :=
  "\n@TotalColumns 2\nCode: @Optional notEmpty\nName: range("

theorem syntaxFault_stopsAt_of_stumblingText :
    (∃ line ∈ textLines stumblingText, isBlankLine line = false) ∧
      (parse stumblingText).result = .error (.syntaxError ⟨.badColumn, 3, 17⟩) ∧
      (ParseFault.syntaxError ⟨.badColumn, 3, 17⟩).isSyntax = true ∧
      StopsAt stumblingText ⟨.badColumn, 3, 17⟩ := by
  have hvisible : ∃ line ∈ textLines stumblingText, isBlankLine line = false := by decide +kernel
  have hparse : (parse stumblingText).result = .error (.syntaxError ⟨.badColumn, 3, 17⟩) := by cbv
  obtain ⟨diagnostic, heq, -, hstops⟩ := syntaxFault_stopsAt _ _ hvisible hparse rfl
  obtain rfl := ParseFault.syntaxError.inj heq
  exact ⟨hvisible, hparse, rfl, hstops⟩

end TableSchema.Schema
