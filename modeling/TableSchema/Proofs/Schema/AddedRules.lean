import TableSchema.Proofs.Schema.Diagnosis
import TableSchema.Proofs.Schema.Layout
import TableSchema.Proofs.Schema.RoundTrip

namespace TableSchema

def Column.addRule (column : Column) (rule : Rule) : Column :=
  { column with rules := column.rules ++ [rule] }

namespace Schema

open Grammar TableSchema.Text

-- The schema with a further rule behind those of one of its columns.
def addRule (schema : Schema) (index : Nat) (rule : Rule) : Schema :=
  { schema with columns := schema.columns.modify index fun column => column.addRule rule }

theorem columnNames_addRule (schema : Schema) (index : Nat) (rule : Rule) :
    (schema.addRule index rule).columnNames = schema.columnNames := by
  refine List.ext_getElem? fun position => ?_
  simp only [columnNames, addRule, List.getElem?_map, List.getElem?_modify]
  cases schema.columns[position]? with
  | none => rfl
  | some column =>
      simp only [Option.map_eq_map, Option.map_some]
      split <;> rfl

theorem mem_columns_addRule {schema : Schema} {index : Nat} {rule : Rule} {column : Column}
    (h : column ∈ (schema.addRule index rule).columns) :
    column ∈ schema.columns ∨ ∃ old ∈ schema.columns, column = old.addRule rule := by
  obtain ⟨position, hposition⟩ := List.mem_iff_getElem?.mp h
  rw [addRule, List.getElem?_modify] at hposition
  obtain ⟨old, hold, hcolumn⟩ := Option.map_eq_some_iff.mp hposition
  have hmem := List.mem_of_getElem? hold
  split at hcolumn
  · exact .inr ⟨old, hmem, hcolumn.symm⟩
  · exact .inl (hcolumn ▸ hmem)

theorem ReferencesDefined.addRule {schema : Schema} {index : Nat} {rule : Rule}
    (h : ReferencesDefined schema.columns)
    (hrule : ∀ name ∈ rule.references, name ∈ schema.columnNames) :
    ReferencesDefined (schema.addRule index rule).columns := by
  intro column hcolumn other hother name hname
  change name ∈ (schema.addRule index rule).columnNames
  rw [columnNames_addRule]
  rcases mem_columns_addRule hcolumn with hold | ⟨old, hold, rfl⟩
  · exact h column hold other hother name hname
  · rcases List.mem_append.mp hother with hother | hother
    · exact h old hold other hother name hname
    · obtain rfl := List.mem_singleton.mp hother
      exact hrule name hname

theorem DepthWithinLimit.addRule {schema : Schema} {index : Nat} {rule : Rule}
    (h : DepthWithinLimit schema.columns) (hrule : rule.depth ≤ maxDepth) :
    DepthWithinLimit (schema.addRule index rule).columns := by
  intro column hcolumn other hother
  rcases mem_columns_addRule hcolumn with hold | ⟨old, hold, rfl⟩
  · exact h column hold other hother
  · rcases List.mem_append.mp hother with hother | hother
    · exact h old hold other hother
    · obtain rfl := List.mem_singleton.mp hother
      exact hrule

/-! Terminals of a column and a further rule -/

instance : DecidablePred EndsExpressions := fun terminal =>
  inferInstanceAs (Decidable (terminal.kind = .directive ∨ terminal.kind = .endOfLine))

theorem Grammar.IsExpressions.not_endsExpressions {terminals : List Terminal} {rules : List Rule}
    (h : IsExpressions terminals rules) : ∀ terminal ∈ terminals, ¬EndsExpressions terminal := by
  rintro terminal hm (hkind | hkind)
  · exact h.kind_ne rfl terminal hm hkind
  · exact h.kind_ne rfl terminal hm hkind

theorem Grammar.IsExpressions.append {front back : List Terminal} {rules others : List Rule}
    (hfront : IsExpressions front rules) (hback : IsExpressions back others) :
    IsExpressions (front ++ back) (rules ++ others) := by
  induction hfront with
  | nil => exact hback
  | cons hfirst _ ih => simpa using IsExpressions.cons hfirst ih

-- The terminals of a column fall into those up to the end of its rules and those behind.
-- A further rule can stand between them.
theorem Grammar.IsColumn.exists_append {terminals : List Terminal} {column : Column}
    (h : IsColumn terminals column) :
    ∃ front ends, terminals = front ++ ends ∧ ends ≠ [] ∧
      (∀ terminal ∈ front, ¬EndsExpressions terminal) ∧
      (∀ terminal ∈ ends, EndsExpressions terminal) ∧
      ∀ expression rule, IsExpression expression rule →
        IsColumn (front ++ (expression ++ ends)) (column.addRule rule) := by
  obtain @⟨name, colon, mark, expressions, written, rules, directives, hrules, hwritten, hnodup⟩ := h
  refine ⟨⟨.word, name⟩ :: ⟨.colon, colon⟩ :: expressions, written ++ [⟨.endOfLine, mark⟩], rfl,
    by simp, ?_, ?_, fun expression rule hrule => ?_⟩
  · simpa [EndsExpressions] using hrules.not_endsExpressions
  · intro terminal hm
    rcases List.mem_append.mp hm with hm | hm
    · exact .inl (kind_of_isDirective hwritten terminal hm)
    · obtain rfl := List.mem_singleton.mp hm
      exact .inr rfl
  · have hadded : IsExpressions (expressions ++ expression) (rules ++ [rule]) :=
      hrules.append (by simpa using IsExpressions.cons hrule .nil)
    have hcolumn : IsColumn (⟨.word, name⟩ :: ⟨.colon, colon⟩ ::
        (expressions ++ expression ++ (written ++ [⟨.endOfLine, mark⟩])))
        { name, rules := rules ++ [rule], directives } := .intro hadded hwritten hnodup
    rw [List.append_assoc] at hcolumn
    exact hcolumn

theorem Grammar.IsColumn.kind_ne_invalid {terminals : List Terminal} {column : Column}
    (h : IsColumn terminals column) : ∀ terminal ∈ terminals, terminal.kind ≠ .invalid := by
  obtain @⟨name, colon, mark, expressions, written, rules, directives, hrules, hwritten, hnodup⟩ := h
  have hbody : ∀ terminal ∈ expressions, terminal.kind ≠ .invalid := hrules.kind_ne rfl
  have hends : ∀ terminal ∈ written, terminal.kind ≠ .invalid := fun terminal hm => by
    simp [kind_of_isDirective hwritten terminal hm]
  simpa [or_imp, forall_and] using ⟨hbody, hends⟩

/-! Where the rules of a line end -/

-- A line in two parts. The rules end with the first one: no token is cut, and the tokens
-- behind are the directives and the mark of the end.
structure IsRuleEnd (front back : List Char) : Prop where
  seam : IsSeam front back
  behind : ∀ token ∈ tokenize (front ++ back) 1,
    front.length < token.column ↔ EndsExpressions token.terminal

theorem separates_of_endsExpressions {back : List Char}
    (h : ∀ terminal ∈ lineTerminals back, EndsExpressions terminal) : Separates back := by
  intro c hc
  obtain ⟨rest, rfl⟩ := List.head?_eq_some_iff.mp hc
  rw [Bool.eq_false_iff]
  intro hword
  rw [lineTerminals_cons_of_some (lexeme?_of_isWordChar hword rest)] at h
  rcases h _ List.mem_cons_self with hkind | hkind
  · cases hkind
  · cases hkind

theorem allValid_of_isColumn {line : List Char} {column : Column}
    (h : IsColumn (lineTerminals line) column) : AllValid (tokenize line 1) :=
  fun _ ht => h.kind_ne_invalid _ (List.mem_map_of_mem ht)

section RuleEnd

variable {front back : List Char} {column : Column}

-- What stands in front of the end of the rules is read as before, whatever is put there.
theorem IsRuleEnd.exists_front (h : IsRuleEnd front back)
    (hcolumn : IsColumn (lineTerminals (front ++ back)) column) :
    ∃ terminals, (∀ terminal ∈ terminals, ¬EndsExpressions terminal) ∧
      (∀ terminal ∈ lineTerminals back, EndsExpressions terminal) ∧
      ∀ back', back' = back ∨ Separates back' →
        lineTerminals (front ++ back') = terminals ++ lineTerminals back' := by
  obtain ⟨hseam, hbehind⟩ := h
  rw [IsSeam, Nat.add_comm] at hseam
  obtain ⟨tokens, hlt, htokens⟩ := tokensFrom_append (allValid_of_isColumn hcolumn) hseam
  have hterminals : ∀ back' : List Char,
      (tokensFrom 1 (1 + front.length) 0 back').map Token.terminal = lineTerminals back' :=
    map_terminal_tokensFrom 1 (1 + front.length) 0
  rw [tokenize, htokens back (.inl rfl)] at hbehind
  refine ⟨tokens.map Token.terminal, ?_, ?_, fun back' hback => ?_⟩
  · intro terminal hm hends
    obtain ⟨token, ht, rfl⟩ := List.mem_map.mp hm
    have hcolumn := (hbehind token (List.mem_append_left _ ht)).mpr hends
    have hfront := hlt token ht
    omega
  · intro terminal hm
    rw [← hterminals] at hm
    obtain ⟨token, ht, rfl⟩ := List.mem_map.mp hm
    have hle := (tiles_tokensFrom _ _ _).le_column token ht
    exact (hbehind token (List.mem_append_right _ ht)).mp (by omega)
  · rw [lineTerminals, tokenize, htokens back' hback, List.map_append, hterminals]

theorem IsRuleEnd.isColumn_addRule (h : IsRuleEnd front back)
    (hcolumn : IsColumn (lineTerminals (front ++ back)) column) {gap piece : List Char}
    (hgap : IsGap gap) {expression : List Terminal} {rule : Rule} (hreads : Reads piece expression)
    (hrule : IsExpression expression rule) :
    IsColumn (lineTerminals (front ++ (gap ++ (piece ++ back)))) (column.addRule rule) := by
  obtain ⟨terminals, hfront, hback, hterminals⟩ := h.exists_front hcolumn
  obtain ⟨front', ends, hsplit, -, hfront', hends, hadd⟩ := hcolumn.exists_append
  rw [hterminals back (.inl rfl)] at hsplit
  have hheads : ∀ {ends : List Terminal}, (∀ terminal ∈ ends, EndsExpressions terminal) →
      ∀ terminal ∈ ends.head?, (!decide (EndsExpressions terminal)) = false :=
    fun hends terminal hm => by simp [hends terminal (List.mem_of_mem_head? hm)]
  obtain ⟨rfl, rfl⟩ := append_inj_of_front hsplit (by simpa using hfront) (by simpa using hfront')
    (hheads hback) (hheads hends)
  have hseparates := separates_of_endsExpressions hback
  rw [hterminals _ (.inr (hgap.separates _)), hgap.lineTerminals_append,
    hreads.append back hseparates]
  exact hadd expression rule hrule

end RuleEnd

-- The rules of every column end somewhere.
theorem exists_isRuleEnd {line : List Char} {column : Column}
    (h : IsColumn (lineTerminals line) column) :
    ∃ front back, line = front ++ back ∧ IsRuleEnd front back := by
  obtain ⟨front, ends, hsplit, hne, hfront, hends, -⟩ := h.exists_append
  obtain ⟨mark, rest, rfl⟩ := List.exists_cons_of_ne_nil hne
  obtain ⟨tokens, others, htokens, rfl, hothers⟩ := List.map_eq_append_iff.mp hsplit
  obtain ⟨first, later, rfl, rfl, rfl⟩ := List.map_eq_cons_iff.mp hothers
  have htiles := tiles_tokensFrom 1 1 line
  rw [← tokenize, htokens] at htiles
  have hmem : first ∈ tokens ++ first :: later := by simp
  have hpositive := htiles.le_column first hmem
  have hle := htiles.column_le first hmem
  have hlength : (line.take (first.column - 1)).length = first.column - 1 := by
    rw [List.length_take]
    omega
  refine ⟨line.take (first.column - 1), line.drop (first.column - 1),
    (List.take_append_drop _ _).symm, ?_, ?_⟩
  · rw [IsSeam, hlength, Nat.sub_add_cancel hpositive, List.take_append_drop, htokens]
    exact parts_of_mem htiles.disjoint hmem
  · rw [List.take_append_drop, htokens, hlength]
    obtain ⟨-, hlater, hbefore⟩ := List.pairwise_append.mp htiles.ordered
    have hlater := (List.pairwise_cons.mp hlater).1
    intro token hm
    rcases List.mem_append.mp hm with hm | hm
    · have hlt := hbefore token hm first List.mem_cons_self
      exact iff_of_false (by omega) (hfront _ (List.mem_map_of_mem hm))
    · refine iff_of_true ?_ (hends _ (List.mem_map_of_mem hm))
      rcases List.mem_cons.mp hm with rfl | hm
      · omega
      · have hlt := hlater token hm
        omega

/-! Texts with a further rule -/

-- A rule is written in the line of a column: behind its rules, in front of its directives.
inductive AddsRule (index : Nat) (rule : Rule) (text other : String) : Prop
  | intro {before after : List (List Char)} {front gap back : List Char}
      (hlines : textLines text = before ++ (front ++ back) :: after)
      (hvisible : isBlankLine (front ++ back) = false)
      (hindex : (before.filter fun line => !isBlankLine line).length = index + 1)
      (hend : IsRuleEnd front back) (hgap : IsGap gap)
      (hother : textLines other =
        before ++ (front ++ (gap ++ (rule.render.toList ++ back))) :: after) :
      AddsRule index rule text other

theorem terminals_eq_of_textLines {text : String} {before after : List (List Char)}
    {line : List Char} (h : textLines text = before ++ line :: after)
    (hvisible : isBlankLine line = false) :
    terminals text = (before.filter fun line => !isBlankLine line).map lineTerminals ++
      lineTerminals line :: (after.filter fun line => !isBlankLine line).map lineTerminals := by
  rw [terminals_eq]
  change ((textLines text).filter _).map _ = _
  rw [h, List.filter_append, List.filter_cons_of_pos (by simp [hvisible]), List.map_append,
    List.map_cons]

theorem AddsRule.exists_terminals {index : Nat} {rule : Rule} {text other : String}
    (h : AddsRule index rule text other) :
    ∃ first before after front gap back, before.length = index ∧ IsRuleEnd front back ∧ IsGap gap ∧
      terminals text = first :: (before ++ lineTerminals (front ++ back) :: after) ∧
      terminals other = first ::
        (before ++ lineTerminals (front ++ (gap ++ (rule.render.toList ++ back))) :: after) := by
  obtain @⟨before, after, front, gap, back, hlines, hvisible, hindex, hend, hgap, hother⟩ := h
  have hvisible' : isBlankLine (front ++ (gap ++ (rule.render.toList ++ back))) = false := by
    simp only [isBlankLine_append, Bool.and_eq_false_iff] at hvisible ⊢
    tauto
  have htext := terminals_eq_of_textLines hlines hvisible
  have hterminals := terminals_eq_of_textLines hother hvisible'
  obtain ⟨first, lines, hbefore⟩ := List.exists_cons_of_length_eq_add_one hindex
  rw [hbefore] at hindex htext hterminals
  exact ⟨lineTerminals first, lines.map lineTerminals, _, front, gap, back,
    by simpa using hindex, hend, hgap, htext, hterminals⟩

theorem forall₂_modify {α β : Type} {R : α → β → Prop} {before after : List α} {a a' : α}
    {bs : List β} {f : β → β} (h : List.Forall₂ R (before ++ a :: after) bs)
    (ha : ∀ b, R a b → R a' (f b)) :
    List.Forall₂ R (before ++ a' :: after) (bs.modify before.length f) := by
  induction before generalizing bs with
  | nil =>
      obtain ⟨b, later, hb, hlater, rfl⟩ := List.forall₂_cons_left_iff.mp h
      exact .cons (ha b hb) hlater
  | cons first before ih =>
      obtain ⟨b, later, hb, hlater, rfl⟩ := List.forall₂_cons_left_iff.mp h
      exact .cons hb (ih hlater)

-- A text with a further rule stands for the schema with that rule.
theorem parse_of_addsRule {text other : String} {schema : Schema} {index : Nat} {rule : Rule}
    {expression : List Terminal} (hparse : (parse text).result = .ok schema)
    (hadds : AddsRule index rule text other) (hreads : Reads rule.render.toList expression)
    (hrule : IsExpression expression rule)
    (hreferences : ∀ name ∈ rule.references, name ∈ schema.columnNames)
    (hdepth : rule.depth ≤ maxDepth) :
    (parse other).result = .ok (schema.addRule index rule) := by
  obtain ⟨first, before, after, front, gap, back, rfl, hend, hgap, htext, hother⟩ :=
    hadds.exists_terminals
  have hlimit := totalWithinLimit_of_parse hparse
  have hwithin := depthWithinLimit_of_parse hparse
  obtain @⟨_, _, globals, columns, hlines, hglobals, hcolumns, htotal, hdefined⟩ :=
    denotes_of_parse hparse
  obtain ⟨rfl, rfl⟩ := List.cons.inj (hlines.symm.trans htext)
  have hadded : List.Forall₂ IsColumn _
      (columns.modify before.length fun column => column.addRule rule) :=
    forall₂_modify hcolumns fun _ hcolumn => hend.isColumn_addRule hcolumn hgap hreads hrule
  rw [TotalWithinLimit, htext] at hlimit
  refine parse_of_denotes (.intro hother hglobals hadded ?_ ?_) ?_ (hwithin.addRule hdepth)
  · rw [List.length_modify, htotal]
  · exact ReferencesDefined.addRule hdefined hreferences
  · rw [TotalWithinLimit, hother]
    exact hlimit

theorem exists_isColumn {text : String} {schema : Schema} {first line : List Terminal}
    {lines : List (List Terminal)} (hparse : (parse text).result = .ok schema)
    (hlines : terminals text = first :: lines) (hm : line ∈ lines) :
    ∃ column, IsColumn line column := by
  obtain ⟨_, _, hlines', hcolumns, -, -⟩ := (denotes_of_parse hparse).exists_lines
  obtain ⟨-, rfl⟩ := List.cons.inj (hlines'.symm.trans hlines)
  obtain ⟨column, -, hcolumn⟩ := exists_mem_of_forall₂ hcolumns.flip hm
  exact ⟨column, hcolumn⟩

-- The line of a column in its text.
theorem exists_line_of_column {text : String} {schema : Schema} {index : Nat}
    (hparse : (parse text).result = .ok schema) (hindex : index < schema.columns.length) :
    ∃ before line after column, textLines text = before ++ line :: after ∧
      isBlankLine line = false ∧
      (before.filter fun line => !isBlankLine line).length = index + 1 ∧
      IsColumn (lineTerminals line) column := by
  obtain ⟨first, lines, hlines, hcolumns, -, -⟩ := (denotes_of_parse hparse).exists_lines
  have hvisible := hlines
  rw [terminals_eq] at hvisible
  change ((textLines text).filter _).map _ = _ at hvisible
  obtain ⟨start, visible, hfilter, -, rfl⟩ := List.map_eq_cons_iff.mp hvisible
  have hlt : index < visible.length := by
    have hlength := hcolumns.length_eq
    rw [List.length_map] at hlength
    omega
  have hsplit : (textLines text).filter (fun line => !isBlankLine line) =
      (start :: visible.take index) ++ visible[index] :: visible.drop (index + 1) := by
    rw [hfilter, List.cons_append, ← List.drop_eq_getElem_cons hlt, List.take_append_drop]
  obtain ⟨before, rest, htext, hbefore, hrest⟩ := List.filter_eq_append_iff.mp hsplit
  -- Blank lines right in front of the line are among those before it.
  obtain ⟨blank, after, rfl, hblank, hline, -⟩ := List.filter_eq_cons_iff.mp hrest
  obtain ⟨column, hcolumn⟩ := exists_isColumn hparse hlines
    (List.mem_map_of_mem (List.getElem_mem hlt))
  rw [← List.append_assoc] at htext
  refine ⟨before ++ blank, visible[index], after, column, htext, by simpa using hline, ?_, hcolumn⟩
  rw [List.filter_append, hbefore, List.filter_eq_nil_iff.mpr hblank]
  simp [Nat.min_eq_left hlt.le]

theorem exists_textLines {lines : List (List Char)}
    (h : ∀ line ∈ lines, ∀ c ∈ line, isLineBreak c = false) : ∃ text, textLines text = lines := by
  refine ⟨String.ofList (byteOrderMark :: lines.flatMap fun line => line ++ ['\n']), ?_⟩
  rw [textLines, String.toList_ofList]
  exact splitLines_flatMap h

-- A further rule can be written behind the rules of every column.
theorem exists_addsRule {text : String} {schema : Schema} {index : Nat} {rule : Rule}
    (hparse : (parse text).result = .ok schema) (hindex : index < schema.columns.length)
    (hunbroken : ∀ c ∈ rule.render.toList, isLineBreak c = false) :
    ∃ other, AddsRule index rule text other := by
  obtain ⟨before, line, after, column, htext, hvisible, hbefore, hcolumn⟩ :=
    exists_line_of_column hparse hindex
  obtain ⟨front, back, rfl, hend⟩ := exists_isRuleEnd hcolumn
  have hspace : isLineBreak ' ' = false := by decide
  have hold : ∀ line ∈ textLines text, ∀ c ∈ line, isLineBreak c = false :=
    fun _ hm => isLineBreak_of_mem_splitLines hm
  have hnew : ∀ line ∈ before ++ (front ++ ([' '] ++ (rule.render.toList ++ back))) :: after,
      ∀ c ∈ line, isLineBreak c = false := by
    rw [htext] at hold
    simp only [List.forall_mem_append, List.forall_mem_cons] at hold ⊢
    obtain ⟨hearlier, ⟨hfront, hback⟩, hlater⟩ := hold
    exact ⟨hearlier, ⟨hfront, ⟨hspace, List.forall_mem_nil _⟩, hunbroken, hback⟩, hlater⟩
  obtain ⟨other, hother⟩ := exists_textLines hnew
  exact ⟨other, .intro htext hvisible hbefore hend (by decide) hother⟩

end Schema

end TableSchema
