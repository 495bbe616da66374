import TableSchema.Proofs.Schema.Depth
import TableSchema.Proofs.Schema.Rendering

namespace TableSchema

open Schema TableSchema.Text

/-! Schemas as text -/

-- The name, the rules and the directives of a column, with spaces between them.
def Column.render (column : Column) : String :=
  column.name ++ ": " ++
    String.intercalate " " (column.rules.map Rule.render ++ column.directives.map Directive.keyword)

namespace Schema

def GlobalOption.keyword : GlobalOption → String
  | .noHeader => "@noHeader"
  | .permitEmpty => "@permitEmpty"

-- The options of a schema, in the order in which they are written.
def options (schema : Schema) : List GlobalOption :=
  (if schema.hasHeader then [] else [.noHeader]) ++ if schema.permitEmpty then [.permitEmpty] else []

def renderGlobals (schema : Schema) : String :=
  String.intercalate " "
    ("@TotalColumns" :: toString schema.total :: schema.options.map GlobalOption.keyword)

-- The schema as it can be written, a line for each of its columns.
def render (schema : Schema) : String :=
  String.intercalate "\n" (schema.renderGlobals :: schema.columns.map Column.render)

-- All numbers that bound ranges can be written.
def HasWritableBounds (schema : Schema) : Prop :=
  ∀ column ∈ schema.columns, ∀ rule ∈ column.rules, ∀ bound ∈ rule.rangeBounds, bound.IsWritable

end Schema

/-! Pieces with spaces between them -/

namespace Schema

theorem reads_intercalate {pieces : List String} {terminals : List (List Terminal)}
    (h : List.Forall₂ (fun piece found => Reads piece.toList found) pieces terminals) :
    Reads (String.intercalate " " pieces).toList terminals.flatten := by
  induction h with
  | nil => exact Reads.nil
  | @cons piece found pieces others hfirst hothers ih =>
      cases hothers with
      | nil => simpa using hfirst
      | @cons next _ pieces _ _ _ =>
          have htext : (String.intercalate " " (piece :: next :: pieces)).toList =
              piece.toList ++ ' ' :: (String.intercalate " " (next :: pieces)).toList := by
            simp [String.intercalate_cons_cons]
          have hjoined := hfirst.join isSign_space ih
          rwa [htext]

theorem reads_expressions {given : List Terminal} {rules : List Rule}
    (h : Grammar.IsExpressions given rules) (hgiven : ∀ terminal ∈ given, terminal.IsWritable)
    (hbounds : ∀ rule ∈ rules, ∀ bound ∈ rule.rangeBounds, bound.IsWritable) :
    ∃ expressions,
      List.Forall₂ (fun piece found => Reads piece.toList found) (rules.map Rule.render) expressions ∧
        Grammar.IsExpressions expressions.flatten rules := by
  induction h with
  | nil => exact ⟨[], .nil, .nil⟩
  | cons hfirst _ ih =>
      obtain ⟨hb, hbounds⟩ := List.forall_mem_cons.mp hbounds
      simp only [List.mem_append] at hgiven
      obtain ⟨expression, hreads, hexpression⟩ :=
        reads_expression hfirst (fun terminal hm => hgiven terminal (.inl hm)) hb
      obtain ⟨expressions, hall, hexpressions⟩ :=
        ih (fun terminal hm => hgiven terminal (.inr hm)) hbounds
      exact ⟨expression :: expressions, .cons hreads hall, .cons hexpression hexpressions⟩

theorem reads_directiveKeyword (directive : Directive) :
    ∃ terminal, Reads directive.keyword.toList [terminal] ∧ Grammar.IsDirective terminal directive := by
  cases directive with
  | isOptional => exact ⟨_, reads_directive "Optional" rfl (by decide), rfl, by decide⟩
  | ignoreCase => exact ⟨_, reads_directive "IgnoreCase" rfl (by decide), rfl, by decide⟩
  | warning => exact ⟨_, reads_directive "Warning" rfl (by decide), rfl, by decide⟩
  | matchIsFalse => exact ⟨_, reads_directive "MatchIsFalse" rfl (by decide), rfl, by decide⟩

theorem reads_optionKeyword (option : GlobalOption) :
    ∃ terminal, Reads option.keyword.toList [terminal] ∧ Grammar.IsOption terminal option := by
  cases option with
  | noHeader => exact ⟨_, reads_directive "noHeader" rfl (by decide), rfl, by decide⟩
  | permitEmpty => exact ⟨_, reads_directive "permitEmpty" rfl (by decide), rfl, by decide⟩

-- Keywords that are one terminal each.
theorem reads_keywords {α : Type} {R : Terminal → α → Prop} {keyword : α → String}
    (h : ∀ value, ∃ terminal, Reads (keyword value).toList [terminal] ∧ R terminal value)
    (values : List α) :
    ∃ written : List Terminal,
      List.Forall₂ (fun piece found => Reads piece.toList found) (values.map keyword)
        (written.map fun terminal => [terminal]) ∧ List.Forall₂ R written values := by
  induction values with
  | nil => exact ⟨[], .nil, .nil⟩
  | cons value values ih =>
      obtain ⟨terminal, hreads, hr⟩ := h value
      obtain ⟨written, hall, hwritten⟩ := ih
      exact ⟨terminal :: written, .cons hreads hall, .cons hr hwritten⟩

/-! Lines -/

theorem Reads.lineTerminals_eq {piece : List Char} {terminals : List Terminal}
    (h : Reads piece terminals) : lineTerminals piece = terminals ++ [⟨.endOfLine, ""⟩] := by
  have hend := h.append [] nofun
  rwa [List.append_nil, lineTerminals_nil] at hend

-- A line of a text that says something.
structure IsTextLine (line : List Char) : Prop where
  unbroken : ∀ c ∈ line, isLineBreak c = false
  visible : ∃ c ∈ line, isBlank c = false

theorem flatten_map_singleton (terminals : List Terminal) :
    (terminals.map fun terminal => [terminal]).flatten = terminals := by
  rw [← List.flatMap_def, List.flatMap_singleton']

theorem renderColumn_complete {given : List Terminal} {column : Column}
    (h : Grammar.IsColumn given column) (hgiven : ∀ terminal ∈ given, terminal.IsWritable)
    (hbounds : ∀ rule ∈ column.rules, ∀ bound ∈ rule.rangeBounds, bound.IsWritable) :
    IsTextLine column.render.toList ∧ Grammar.IsColumn (lineTerminals column.render.toList) column := by
  obtain @⟨name, colon, mark, given, _, rules, directives, hrules, -, hnodup⟩ := h
  simp only [List.mem_cons, List.mem_append] at hgiven
  have hword : IsWord name := (hgiven _ (.inl rfl)).word rfl
  obtain ⟨expressions, hexpressions, hall⟩ :=
    reads_expressions hrules (fun terminal hm => hgiven terminal (.inr (.inr (.inl hm)))) hbounds
  obtain ⟨written, hwritten, hdirectives⟩ := reads_keywords reads_directiveKeyword directives
  have hbody := reads_intercalate (List.rel_append hexpressions hwritten)
  rw [List.flatten_append, flatten_map_singleton] at hbody
  have hreads := (reads_word hword).join isSign_colon (Reads.nil.join isSign_space hbody)
  have htext : (Column.render { name, rules, directives }).toList = name.toList ++ ':' :: ([] ++ ' ' ::
      (String.intercalate " " (rules.map Rule.render ++ directives.map Directive.keyword)).toList) := by
    simp [Column.render]
  rw [htext]
  refine ⟨⟨hreads.unbroken, ?_⟩, ?_⟩
  · obtain ⟨c, hc⟩ := List.exists_mem_of_ne_nil _ hword.1
    exact ⟨c, List.mem_append_left _ hc, isBlank_of_isWordChar (hword.2 c hc)⟩
  · rw [hreads.lineTerminals_eq]
    simp only [List.nil_append, List.cons_append, List.append_assoc]
    exact .intro hall hdirectives hnodup

theorem isTotal_toString {total : Nat} (h : 1 ≤ total) :
    Grammar.IsTotal ⟨.word, toString total⟩ total := by
  have hdigits : ∀ c ∈ (toString total).toList, isAsciiDigit c = true := by
    rw [Number.toList_toString]
    exact fun c hc => Number.isAsciiDigit_of_mem_toDigits hc
  refine ⟨rfl, (Rule.isWord_toString total).1, hdigits, ?_, h⟩
  rw [Number.toList_toString]
  exact (Number.digitsOf_toDigits total).symm

theorem sublist_options (schema : Schema) : schema.options.Sublist [.noHeader, .permitEmpty] := by
  rw [options]
  cases schema.hasHeader <;> cases schema.permitEmpty <;> decide

-- The first line: the total, and the options behind it.
theorem reads_renderGlobals (schema : Schema) :
    ∃ written, Reads schema.renderGlobals.toList
        (⟨.directive, "TotalColumns"⟩ :: ⟨.word, toString schema.total⟩ :: written) ∧
      List.Forall₂ Grammar.IsOption written schema.options := by
  have hkeyword : Reads "@TotalColumns".toList [⟨.directive, "TotalColumns"⟩] :=
    reads_directive "TotalColumns" rfl (by decide)
  have htotal := reads_word (Rule.isWord_toString schema.total)
  obtain ⟨written, hwritten, hoptions⟩ := reads_keywords reads_optionKeyword schema.options
  have hreads := reads_intercalate (.cons hkeyword (.cons htotal hwritten))
  rw [List.flatten_cons, List.flatten_cons, flatten_map_singleton] at hreads
  exact ⟨written, hreads, hoptions⟩

theorem exists_cons_of_renderGlobals (schema : Schema) :
    ∃ rest, schema.renderGlobals.toList = '@' :: rest := by
  simp [renderGlobals, String.intercalate_cons_cons]

theorem renderGlobals_complete {schema : Schema} (h : 1 ≤ schema.total) :
    IsTextLine schema.renderGlobals.toList ∧
      Grammar.IsGlobals (lineTerminals schema.renderGlobals.toList)
        { total := schema.total, options := schema.options } := by
  obtain ⟨written, hreads, hoptions⟩ := reads_renderGlobals schema
  obtain ⟨rest, hrest⟩ := exists_cons_of_renderGlobals schema
  refine ⟨⟨hreads.unbroken, '@', by simp [hrest], isBlank_eq_false (by decide) (by decide)⟩, ?_⟩
  rw [hreads.lineTerminals_eq]
  exact .intro (by decide) (isTotal_toString h) hoptions (sublist_options schema)

theorem countWithinLimit_renderGlobals {schema : Schema} (h : schema.total < 10 ^ totalLimit) :
    CountWithinLimit (lineTerminals schema.renderGlobals.toList) := by
  obtain ⟨written, hreads, -⟩ := reads_renderGlobals schema
  rw [hreads.lineTerminals_eq]
  intro name count rest hfirst _ _
  obtain ⟨-, hrest⟩ := List.cons.inj hfirst
  obtain ⟨hcount, -⟩ := List.cons.inj hrest
  obtain rfl := congrArg Terminal.text hcount
  rw [Number.toList_toString]
  exact (Nat.length_toDigits_le_iff (by decide) (by decide)).mpr h

end Schema

end TableSchema
