import TableSchema.Proofs.Schema.AddedRules
import TableSchema.Proofs.Table.References

namespace TableSchema

-- The rule that a cell is that of the column with a name.
def Rule.reference (name : String) : Rule :=
  .compare .equal (.column name)

namespace Schema

open Grammar TableSchema.Text

/-! What stands behind a reference -/

-- What may stand behind a terminal. A reference is an argument.
def MayFollow (terminal next : Terminal) : Prop :=
  terminal.kind = .column → next.kind = .comma ∨ next.kind = .closing

-- No reference is left open at the end.
def Passes (terminals : List Terminal) : Prop :=
  ∀ more, List.IsChain MayFollow more → List.IsChain MayFollow (terminals ++ more)

theorem Passes.append {front back : List Terminal} (hfront : Passes front) (hback : Passes back) :
    Passes (front ++ back) := by
  intro more hmore
  rw [List.append_assoc]
  exact hfront _ (hback _ hmore)

theorem passes_of_kind_ne {terminals : List Terminal}
    (h : ∀ terminal ∈ terminals, terminal.kind ≠ .column) : Passes terminals := by
  intro more hmore
  induction terminals with
  | nil => exact hmore
  | cons terminal terminals ih =>
      obtain ⟨hterminal, hterminals⟩ := List.forall_mem_cons.mp h
      exact List.isChain_cons.mpr ⟨fun _ _ hkind => absurd hkind hterminal, ih hterminals⟩

namespace Grammar

theorem IsArguments.passes {inner : List Terminal} {arguments : List Argument}
    (h : IsArguments inner arguments) (closing : String) : Passes (inner ++ [⟨.closing, closing⟩]) := by
  have hclosing : Passes [⟨.closing, closing⟩] := passes_of_kind_ne (by simp)
  induction h with
  | last h =>
      intro more hmore
      exact List.isChain_cons_cons.mpr ⟨fun _ => .inr rfl, hclosing more hmore⟩
  | @more terminal argument comma rest arguments h _ ih =>
      intro more hmore
      have hcomma : Passes [⟨.comma, comma⟩] := passes_of_kind_ne (by simp)
      exact List.isChain_cons_cons.mpr ⟨fun _ => .inl rfl, hcomma _ (ih more hmore)⟩

theorem IsCall.passes {call : List Terminal} {name : Rule.Name} {arguments : List Argument}
    (h : IsCall call name arguments) : Passes call := by
  cases h with
  | plain => exact passes_of_kind_ne (by simp)
  | empty => exact passes_of_kind_ne (by simp)
  | applied _ opening closing h =>
      have hfront : Passes [⟨.word, name.text⟩, ⟨.opening, opening⟩] := passes_of_kind_ne (by simp)
      exact hfront.append (h.passes closing)

theorem IsExpression.passes {terminals : List Terminal} {rule : Rule}
    (h : IsExpression terminals rule) : Passes terminals := by
  induction h with
  | rule h =>
      obtain ⟨hcall, -⟩ := h
      exact hcall.passes
  | or _ hright ih =>
      obtain ⟨hcall, -⟩ := hright
      have hor : Passes [⟨.word, "or"⟩] := passes_of_kind_ne (by simp)
      exact ih.append (hor.append hcall.passes)

theorem IsExpressions.passes {terminals : List Terminal} {rules : List Rule}
    (h : IsExpressions terminals rules) : Passes terminals := by
  induction h with
  | nil => exact passes_of_kind_ne (List.forall_mem_nil _)
  | cons hfirst _ ih => exact hfirst.passes.append ih

theorem IsColumn.isChain {terminals : List Terminal} {column : Column}
    (h : IsColumn terminals column) : List.IsChain MayFollow terminals := by
  obtain @⟨name, colon, mark, expressions, written, rules, directives, hrules, hwritten, hnodup⟩ := h
  have hfront : Passes [⟨.word, name⟩, ⟨.colon, colon⟩] := passes_of_kind_ne (by simp)
  have hends : Passes written := passes_of_kind_ne fun terminal hm => by
    simp [kind_of_isDirective hwritten terminal hm]
  exact hfront _ (hrules.passes _ (hends _ (List.isChain_singleton _)))

end Grammar

/-! References in a text -/

theorem toList_render_reference (name : String) :
    (Rule.reference name).render.toList =
      "is".toList ++ '(' :: ('$' :: (name.toList ++ ')' :: [])) := by
  simp [Rule.reference, Rule.render, Rule.arguments, Rule.name, Comparison.name, Operand.toArgument,
    Argument.render]

theorem reads_is : Reads "is".toList [⟨.word, "is"⟩] :=
  reads_word (by decide)

theorem unbroken_reference {name : String} (h : IsWord name) :
    ∀ c ∈ (Rule.reference name).render.toList, isLineBreak c = false := by
  have hname : ∀ c ∈ name.toList, isLineBreak c = false :=
    fun c hc => isLineBreak_of_isWordChar (h.2 c hc)
  rw [toList_render_reference]
  simp only [List.forall_mem_append, List.forall_mem_cons]
  exact ⟨reads_is.unbroken, isSign_opening.unbroken, by decide, hname, isSign_closing.unbroken,
    List.forall_mem_nil _⟩

theorem isWord_of_mem_columnNames {text : String} {schema : Schema}
    (hparse : (parse text).result = .ok schema) : ∀ name ∈ schema.columnNames, IsWord name := by
  intro name hm
  obtain ⟨column, hcolumn, rfl⟩ := List.mem_map.mp hm
  obtain ⟨first, lines, hlines, hcolumns, -, -⟩ := (denotes_of_parse hparse).exists_lines
  obtain ⟨line, hline, ⟨-, -, -⟩⟩ := exists_mem_of_forall₂ hcolumns hcolumn
  have hterminals := isWritable_of_mem_terminals (hlines ▸ List.mem_cons_of_mem _ hline)
  exact (hterminals _ List.mem_cons_self).word rfl

-- The star is a character of words only.
theorem isColumnChar_of_isWordChar {name : List Char} (h : ∀ c ∈ name, isWordChar c = true)
    (hstar : '*' ∉ name) : ∀ c ∈ name, isColumnChar c = true := by
  intro c hc
  have hne : c ≠ '*' := by
    rintro rfl
    exact hstar hc
  simpa [isWordChar, hne] using h c hc

theorem reads_reference {name : String} (h : IsColumnName name) :
    ∃ expression, Reads (Rule.reference name).render.toList expression ∧
      IsExpression expression (.reference name) := by
  have hreads := reads_is.join isSign_opening ((reads_column h).join isSign_closing .nil)
  have hcall : IsCall _ (.compare .equal) [.column name] := .applied _ "(" ")" (.last (.column name))
  rw [toList_render_reference]
  exact ⟨_, hreads, .rule (.intro hcall rfl)⟩

-- A reference ends in front of a star. What begins with the star is a word.
theorem lineTerminals_starred {name : List Char} (hname : ∀ c ∈ name, isWordChar c = true)
    (hstar : '*' ∈ name) (behind : List Char) :
    (∃ rest, lineTerminals ('$' :: (name ++ behind)) = ⟨.invalid, "$"⟩ :: rest) ∨
      ∃ column word rest,
        lineTerminals ('$' :: (name ++ behind)) = ⟨.column, column⟩ :: ⟨.word, word⟩ :: rest := by
  obtain ⟨front, back, rfl, hfront⟩ := List.eq_append_cons_of_mem hstar
  have hcolumn : ∀ c ∈ front, isColumnChar c = true :=
    isColumnChar_of_isWordChar (fun c hc => hname c (List.mem_append_left _ hc)) hfront
  rw [List.append_assoc, List.cons_append]
  have hend : isColumnChar '*' = false := by decide
  have htake : (front ++ '*' :: (back ++ behind)).takeWhile isColumnChar = front := by
    rw [List.takeWhile_append_of_pos hcolumn, List.takeWhile_cons_of_neg (by simp [hend]),
      List.append_nil]
  by_cases hempty : front = []
  · subst hempty
    have hlexeme : lexeme? '$' ([] ++ '*' :: (back ++ behind)) = some (sign .invalid '$') := by
      simp [lexeme?, isSpace, hend]
    exact .inl ⟨_, lineTerminals_cons_of_some hlexeme⟩
  · have hlexeme : lexeme? '$' (front ++ '*' :: (back ++ behind)) =
        some { kind := .column, length := front.length + 1, text := front } := by
      simp [lexeme?, isSpace, htake, hempty]
    rw [lineTerminals_cons_of_some hlexeme, Nat.add_sub_cancel, List.drop_left,
      lineTerminals_cons_of_some (lexeme?_of_isWordChar (by decide) _)]
    exact .inr ⟨_, _, _, rfl⟩

theorem not_isColumn_starred {name : List Char} (hname : ∀ c ∈ name, isWordChar c = true)
    (hstar : '*' ∈ name) (front : List Terminal) (behind : List Char) (column : Column) :
    ¬IsColumn (front ++ lineTerminals ('$' :: (name ++ behind))) column := by
  intro h
  rcases lineTerminals_starred hname hstar behind with ⟨rest, hrest⟩ | ⟨reference, word, rest, hrest⟩
  · rw [hrest] at h
    exact h.kind_ne_invalid _ (List.mem_append_right _ List.mem_cons_self) rfl
  · rw [hrest] at h
    obtain ⟨-, hfollows, -⟩ := List.isChain_append_cons_cons.mp h.isChain
    rcases hfollows rfl with hkind | hkind
    · cases hkind
    · cases hkind

theorem lineTerminals_reference (name : String) (behind : List Char) :
    lineTerminals ((Rule.reference name).render.toList ++ behind) =
      [⟨.word, "is"⟩, ⟨.opening, "("⟩] ++ lineTerminals ('$' :: (name.toList ++ ')' :: behind)) := by
  rw [toList_render_reference, List.append_assoc, List.cons_append,
    reads_is.lineTerminals_append isSign_opening]
  simp

-- A name with a star is not read as one reference, so that the text is no schema.
theorem parse_ne_ok_of_starred {text other : String} {schema : Schema} {index : Nat} {name : String}
    (hparse : (parse text).result = .ok schema) (hname : IsWord name) (hstar : '*' ∈ name.toList)
    (hadds : AddsRule index (.reference name) text other) (found : Schema) :
    (parse other).result ≠ .ok found := by
  intro hfound
  obtain ⟨first, before, after, front, gap, back, -, hend, hgap, htext, hother⟩ :=
    hadds.exists_terminals
  obtain ⟨column, hold⟩ := exists_isColumn hparse htext
    (List.mem_append_right before List.mem_cons_self)
  obtain ⟨column', hnew⟩ := exists_isColumn hfound hother
    (List.mem_append_right before List.mem_cons_self)
  obtain ⟨terminals, -, -, hterminals⟩ := hend.exists_front hold
  rw [hterminals _ (.inr (hgap.separates _)), hgap.lineTerminals_append, lineTerminals_reference,
    ← List.append_assoc] at hnew
  exact not_isColumn_starred hname.2 hstar _ _ _ hnew

end Schema

namespace Checker

-- The rule compares with the first cell of the name, and minds the letter case if its own
-- column does.
theorem evaluate_reference {checker : Checker} {schema : Schema} {row : Csv.Row}
    {entry : Column × Nat} {question : Rule.Question} {name : String}
    (hname : name ∈ schema.columnNames)
    (hquestion : checker.question? schema entry row = some question) :
    ∃ cell, schema.IsFirstCell row name cell ∧ ∀ memory,
      (Rule.reference name).evaluate question.context question.value memory =
        (.ok (decide (question.context.fold question.value = question.context.fold cell)), memory) := by
  have hwidth : row.length = schema.total := by
    by_contra hwidth
    simp [question?, hwidth] at hquestion
  obtain ⟨cell, hcell⟩ :
      ∃ cell, (checker.context schema.columnNames row entry.1).cell name = .ok cell :=
    cell_eq_ok hwidth hname
  refine ⟨cell, isFirstCell_of_cell hcell, fun memory => ?_⟩
  rw [← context_of_question? hquestion] at hcell
  have hequal : ∀ value other : String,
      Rule.Comparison.holds .equal value.toList other.toList = decide (value = other) := by
    intro value other
    rw [Bool.eq_iff_iff]
    simp [Rule.Comparison.holds, String.toList_inj]
  simp [Rule.reference, Rule.evaluate, Rule.holds, Rule.Context.operand, hcell, hequal]

end Checker

namespace Schema

open TableSchema.Text

-- A rule that refers to a column of the schema can be added to every column, exactly if no
-- star is in the name. It refers to that name only, and reads the first cell with it.
theorem reference_readable_iff {text : String} {schema : Schema} {index : Nat} {name : String}
    (hparse : (parse text).result = .ok schema) (hindex : index < schema.columns.length)
    (hname : name ∈ schema.columnNames) :
    (∃ other, AddsRule index (.reference name) text other) ∧
      ∀ other, AddsRule index (.reference name) text other →
        ((∃ found, (parse other).result = .ok found) ↔ '*' ∉ name.toList) ∧
        ∀ found, (parse other).result = .ok found →
          found = schema.addRule index (.reference name) ∧
          (Rule.reference name).references = [name] ∧
          ∀ (checker : Checker) (row : Csv.Row), ∀ entry ∈ found.columns.zipIdx,
            ∀ question ∈ checker.question? found entry row,
              ∃ cell, found.IsFirstCell row name cell ∧ ∀ memory,
                (Rule.reference name).evaluate question.context question.value memory =
                  (.ok (decide (question.context.fold question.value = question.context.fold cell)),
                    memory) := by
  have hword := isWord_of_mem_columnNames hparse name hname
  have hread : ∀ other, AddsRule index (.reference name) text other → '*' ∉ name.toList →
      (parse other).result = .ok (schema.addRule index (.reference name)) := by
    intro other hadds hstar
    have hreadable : IsColumnName name := ⟨hword.1, isColumnChar_of_isWordChar hword.2 hstar⟩
    obtain ⟨expression, hreads, hrule⟩ := reads_reference hreadable
    have hdepth : (Rule.reference name).depth ≤ maxDepth := by
      simp [Rule.reference, Rule.depth, Rule.arguments, maxDepth]
    refine parse_of_addsRule hparse hadds hreads hrule (fun other hother => ?_) hdepth
    obtain rfl := List.mem_singleton.mp hother
    exact hname
  refine ⟨exists_addsRule hparse hindex (unbroken_reference hword), fun other hadds => ⟨⟨?_, ?_⟩, ?_⟩⟩
  · rintro ⟨found, hfound⟩ hstar
    exact parse_ne_ok_of_starred hparse hword hstar hadds found hfound
  · exact fun hstar => ⟨_, hread other hadds hstar⟩
  · intro found hfound
    have hstar : '*' ∉ name.toList := fun hstar =>
      parse_ne_ok_of_starred hparse hword hstar hadds found hfound
    obtain rfl := Except.ok.inj (hfound.symm.trans (hread other hadds hstar))
    refine ⟨rfl, rfl, fun checker row entry _ question hquestion => ?_⟩
    refine Checker.evaluate_reference ?_ hquestion
    rw [columnNames_addRule]
    exact hname

-- The second name is that of two columns.
def twinsText : String :=
  "@TotalColumns 3 @noHeader\n\nA: unique@Optional\nB-1:\nB-1: notEmpty"

def twinsSchema : Schema where
  hasHeader := false
  permitEmpty := false
  columns := [
    { name := "A", rules := [.unique], directives := [.isOptional] },
    { name := "B-1", rules := [], directives := [] },
    { name := "B-1", rules := [.notEmpty], directives := [] }]

def comparedText : String :=
  "@TotalColumns 3 @noHeader\n\nA: unique is($B-1)@Optional\nB-1:\nB-1: notEmpty"

theorem addsRule_of_twinsText : AddsRule 0 (.reference "B-1") twinsText comparedText := by
  have hlines : textLines twinsText = ["@TotalColumns 3 @noHeader".toList, []] ++
      ("A: unique".toList ++ "@Optional".toList) :: ["B-1:".toList, "B-1: notEmpty".toList] := by
    decide +kernel
  have hend : IsRuleEnd "A: unique".toList "@Optional".toList :=
    ⟨by decide +kernel, by decide +kernel⟩
  exact .intro hlines (by decide +kernel) (by decide +kernel) hend (by decide : IsGap [' '])
    (by decide +kernel)

theorem reference_readable_iff_of_twinsText :
    (parse twinsText).result = .ok twinsSchema ∧ 0 < twinsSchema.columns.length ∧
      "B-1" ∈ twinsSchema.columnNames ∧
      (parse comparedText).result = .ok (twinsSchema.addRule 0 (.reference "B-1")) := by
  have hparse : (parse twinsText).result = .ok twinsSchema := by cbv
  have hindex : 0 < twinsSchema.columns.length := by decide
  have hname : "B-1" ∈ twinsSchema.columnNames := by decide
  obtain ⟨hreads, hfound⟩ :=
    (reference_readable_iff hparse hindex hname).2 comparedText addsRule_of_twinsText
  obtain ⟨found, hcompared⟩ := hreads.mpr (by decide)
  obtain ⟨rfl, -⟩ := hfound found hcompared
  exact ⟨hparse, hindex, hname, hcompared⟩

-- A column that can be declared, but not referred to.
def starredText : String :=
  "@TotalColumns 1\nA*:"

def starredSchema : Schema where
  hasHeader := true
  permitEmpty := false
  columns := [{ name := "A*", rules := [], directives := [] }]

theorem starred_reference_fails :
    (parse starredText).result = .ok starredSchema ∧ "A*" ∈ starredSchema.columnNames ∧
      AddsRule 0 (.reference "A*") starredText "@TotalColumns 1\nA*: is($A*)" ∧
      (parse "@TotalColumns 1\nA*: is($A*)").result =
        .error (.syntaxError { cause := .badColumn, line := 2, column := 10 }) := by
  have hlines : textLines starredText =
      ["@TotalColumns 1".toList] ++ ("A*:".toList ++ []) :: [] := by
    decide +kernel
  have hend : IsRuleEnd "A*:".toList [] := ⟨by decide +kernel, by decide +kernel⟩
  refine ⟨by cbv, by decide, ?_, by cbv⟩
  exact .intro hlines (by decide +kernel) (by decide +kernel) hend (by decide : IsGap [' '])
    (by decide +kernel)

end Schema

end TableSchema
