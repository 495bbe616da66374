import TableSchema.Proofs.Schema.Diagnosis

namespace TableSchema

namespace Rule

-- The rule refers to the column, in an argument of its own or within an alternative.
inductive RefersTo : Rule → String → Prop
  | argument {rule : Rule} {name : String} (h : .column name ∈ rule.arguments) : RefersTo rule name
  | left {left right : Rule} {name : String} (h : RefersTo left name) :
      RefersTo (.or left right) name
  | right {left right : Rule} {name : String} (h : RefersTo right name) :
      RefersTo (.or left right) name

theorem mem_references_of_argument {rule : Rule} {name : String}
    (h : .column name ∈ rule.arguments) : name ∈ rule.references := by
  cases rule with
  | or left right => cases h
  | _ => exact List.mem_filterMap.mpr ⟨_, h, rfl⟩

theorem refersTo_of_mem_arguments {rule : Rule} {name : String}
    (h : name ∈ rule.arguments.filterMap fun
      | .column name => some name
      | _ => none) : rule.RefersTo name := by
  obtain ⟨argument, hm, hsome⟩ := List.mem_filterMap.mp h
  cases argument with
  | column other =>
      obtain rfl := Option.some.inj hsome
      exact .argument hm
  | _ => cases hsome

theorem refersTo_iff {rule : Rule} {name : String} :
    rule.RefersTo name ↔ name ∈ rule.references := by
  constructor
  · intro h
    induction h with
    | argument h => exact mem_references_of_argument h
    | left _ ih => exact List.mem_append_left _ ih
    | right _ ih => exact List.mem_append_right _ ih
  · intro h
    induction rule with
    | or left right ihl ihr =>
        rcases List.mem_append.mp h with h | h
        · exact .left (ihl h)
        · exact .right (ihr h)
    | _ => exact refersTo_of_mem_arguments h

end Rule

namespace Schema

open Grammar TableSchema.Text

/-! Lines and what they declare -/

-- The lines of the text that are not blank are in order one by one: the first one has
-- the global directives, and each of the others is a column.
structure HasValidLines (text : String) (first : Line) (lines : List Line) (globals : Globals)
    (columns : List Column) : Prop where
  lines_eq : linesOf text.toList = first :: lines
  globals : IsGlobals (first.tokens.map Token.terminal) globals
  columns : List.Forall₂ IsColumn (lines.map fun line => line.tokens.map Token.terminal) columns

-- A rule of a column, and the token that names the column.
structure RuleSite where
  token : Token
  column : Column
  rule : Rule

-- The rules of all columns, from the first column on.
def ruleSites (lines : List Line) (columns : List Column) : List RuleSite :=
  (lines.zip columns).flatMap fun (line, column) =>
    column.rules.map fun rule => { token := current line.tokens, column, rule }

-- Each rule stands with the name of its column.
theorem HasValidLines.terminal_of_mem_ruleSites {text : String} {first : Line} {lines : List Line}
    {globals : Globals} {columns : List Column} (h : HasValidLines text first lines globals columns) :
    ∀ site ∈ ruleSites lines columns, site.token.terminal = ⟨.word, site.column.name⟩ := by
  intro site hsite
  obtain ⟨⟨line, column⟩, hpair, hrule⟩ := List.mem_flatMap.mp hsite
  obtain ⟨rule, -, rfl⟩ := List.mem_map.mp hrule
  have hcolumn := (List.forall₂_iff_zip.mp (List.forall₂_map_left_iff.mp h.columns)).2 hpair
  generalize hterminals : line.tokens.map Token.terminal = terminals at hcolumn
  cases hcolumn
  obtain ⟨token, rest, htokens, hterminal, -⟩ := List.map_eq_cons_iff.mp hterminals
  rwa [htokens]

def RuleSite.RefersOutside (site : RuleSite) (names : List String) : Prop :=
  ∃ name, site.rule.RefersTo name ∧ name ∉ names

theorem RuleSite.refersOutside_iff {site : RuleSite} {names : List String} :
    site.RefersOutside names ↔ ∃ name ∈ site.rule.references, name ∉ names := by
  simp only [RefersOutside, Rule.refersTo_iff]

instance (site : RuleSite) (names : List String) : Decidable (site.RefersOutside names) :=
  decidable_of_iff _ RuleSite.refersOutside_iff.symm

/-! Messages on the whole schema -/

-- A message on a schema, at a token of its text.
def Token.message (token : Token) (text : String) : Message where
  severity := .schema
  text
  line := some token.line
  column := some (.position token.column)

def RuleSite.message (site : RuleSite) : Message :=
  site.token.message
    ("Column: " ++ site.column.name ++ " has invalid cross reference " ++ site.rule.render)

-- What is wrong with lines that are in order one by one: the number of columns, and
-- each rule that refers to a column that is not there.
def crossMessages (total : Nat) (first : Line) (lines : List Line) (columns : List Column) :
    List Message :=
  (if lines.length = total then []
    else [(current first.tokens).message ("@TotalColumns = " ++ toString total ++
      " but number of columns defined = " ++ toString lines.length)]) ++
    ((ruleSites lines columns).filter fun site =>
      site.RefersOutside (columns.map Column.name)).map RuleSite.message

theorem map_toMessage_referenceDiagnostics (names : List String) (column : Column) (token : Token) :
    (referenceDiagnostics names column token).map Diagnostic.toMessage =
      ((column.rules.map fun rule => RuleSite.mk token column rule).filter fun site =>
        site.RefersOutside names).map RuleSite.message := by
  rw [referenceDiagnostics, List.filter_map, List.map_map, List.map_map]
  have hfilter : (fun rule : Rule => rule.references.any fun name => !names.contains name) =
      (fun site : RuleSite => decide (site.RefersOutside names)) ∘
        fun rule => RuleSite.mk token column rule := by
    funext rule
    rw [Bool.eq_iff_iff]
    simp [RuleSite.refersOutside_iff]
  rw [← hfilter]
  rfl

-- The parser reports these messages, and no other ones.
theorem map_toMessage_diagnostics (total : Nat) (first : Line) {lines : List Line}
    {columns : List Column} (hlength : lines.length = columns.length) :
    (diagnostics total columns (current first.tokens)
        (lines.map fun line => current line.tokens)).map Diagnostic.toMessage =
      crossMessages total first lines columns := by
  have hzip : columns.zip (lines.map fun line => current line.tokens) =
      (lines.zip columns).map fun (line, column) => (column, current line.tokens) := by
    rw [← List.zip_swap, List.zip_map_left, List.map_map]
    rfl
  simp only [diagnostics, crossMessages, ruleSites, List.map_append, hlength, hzip,
    List.flatMap_map, List.map_flatMap, List.filter_flatMap, map_toMessage_referenceDiagnostics]
  congr 1
  split <;> rfl

theorem crossMessages_eq_nil_iff (total : Nat) (first : Line) {lines : List Line}
    {columns : List Column} (hlength : lines.length = columns.length) :
    crossMessages total first lines columns = [] ↔
      lines.length = total ∧ ∀ column ∈ columns, ∀ rule ∈ column.rules, ∀ name,
        rule.RefersTo name → name ∈ columns.map Column.name := by
  rw [← map_toMessage_diagnostics total first hlength, List.map_eq_nil_iff,
    diagnostics_eq_nil_iff (by simpa using hlength), hlength]
  simp only [ReferencesDefined, Rule.refersTo_iff]

-- Lines that are in order are read up to the checks of the whole schema.
theorem HasValidLines.parse_eq_finish {text : String} {first : Line} {lines : List Line}
    {globals : Globals} {columns : List Column} (h : HasValidLines text first lines globals columns)
    (hlimit : TotalWithinLimit text) (hdepth : DepthWithinLimit columns) :
    (parse text).result = (finish globals columns (current first.tokens)
      (lines.map fun line => current line.tokens)).result := by
  have hcount : CountWithinLimit (first.tokens.map Token.terminal) :=
    hlimit _ (by simp [terminals, h.lines_eq])
  have hglobals := globalsOf_complete h.globals hcount rfl
  have hcolumns := columnsOf_complete h.columns hdepth
  simp only [parse, h.lines_eq, schemaOf, Parse.result_note_bind]
  rw [Parse.result_bind_of_ok hglobals, Parse.result_bind_of_ok hcolumns]

-- What is beyond a limit breaks the parser.
theorem HasValidLines.parse_isBroken {text : String} {first : Line} {lines : List Line}
    {globals : Globals} {columns : List Column} (h : HasValidLines text first lines globals columns)
    (hbeyond : ¬(TotalWithinLimit text ∧ DepthWithinLimit columns)) : (parse text).IsBroken := by
  by_cases hlimit : TotalWithinLimit text
  · have hdepth : ¬DepthWithinLimit columns := fun hdepth => hbeyond ⟨hlimit, hdepth⟩
    have hlines : terminals text = first.tokens.map Token.terminal ::
        lines.map fun line => line.tokens.map Token.terminal := by
      rw [terminals, h.lines_eq, List.map_cons]
    obtain ⟨rule, hjoins, hdeep⟩ := exists_joins_of_columns hlines h.globals h.columns hdepth
    exact isBroken_of_tooDeep (parse_tooDeep hjoins hdeep hlimit)
  · exact parse_isBroken_of_not_totalWithinLimit hlimit

-- Lines that are in order make a schema exactly if their number is the total and every
-- reference is to one of the columns. Otherwise the messages are those of the checks
-- that fail, each one by itself, and a reference is reported at the name of its column.
-- Only a total that is too long and alternatives that are too deep are not read at all.
theorem parse_reports_crossMessages (text : String) (first : Line) (lines : List Line)
    (globals : Globals) (columns : List Column)
    (h : HasValidLines text first lines globals columns) :
    (TotalWithinLimit text → DepthWithinLimit columns →
      ((∃ schema, (parse text).result = .ok schema) ↔
        lines.length = globals.total ∧ ∀ column ∈ columns, ∀ rule ∈ column.rules, ∀ name,
          rule.RefersTo name → name ∈ columns.map Column.name) ∧
      ((¬∃ schema, (parse text).result = .ok schema) →
        ∃ fault, (parse text).result = .error fault ∧ fault.isDiagnosed = true ∧
          fault.messages = crossMessages globals.total first lines columns)) ∧
      (∀ site ∈ ruleSites lines columns, site.token.terminal = ⟨.word, site.column.name⟩) ∧
      (¬(TotalWithinLimit text ∧ DepthWithinLimit columns) → (parse text).IsBroken) := by
  have hlength : lines.length = columns.length := by
    simpa using h.columns.length_eq
  refine ⟨fun hlimit hdepth => ⟨?_, fun hrejected => ?_⟩, h.terminal_of_mem_ruleSites,
    h.parse_isBroken⟩
  · rw [← crossMessages_eq_nil_iff globals.total first hlength,
      ← map_toMessage_diagnostics globals.total first hlength, List.map_eq_nil_iff,
      h.parse_eq_finish hlimit hdepth]
    simp only [finish_eq_ok_iff, exists_and_left, exists_eq, and_true]
  · rw [h.parse_eq_finish hlimit hdepth] at hrejected ⊢
    cases hfinish : (finish globals columns (current first.tokens)
        (lines.map fun line => current line.tokens)).result with
    | ok schema => exact absurd ⟨schema, hfinish⟩ hrejected
    | error fault =>
        obtain ⟨-, rfl⟩ := finish_eq_error_iff.mp hfinish
        exact ⟨_, rfl, rfl, map_toMessage_diagnostics globals.total first hlength⟩

-- Of three columns, where two have one name, the first and the last one refer to columns
-- that are not there. The total is another one.
def crossedText : String :=
  "\n@TotalColumns 2\nid: is($code) notEmpty or not($Code)\ncode: ends($id)\n\n" ++
    "code: in($a) or empty or in($b)"

def crossedColumns : List Column := [
  { name := "id"
    rules := [.compare .equal (.column "code"), .or .notEmpty (.compare .different (.column "Code"))]
    directives := [] },
  { name := "code", rules := [.compare .endsWith (.column "id")], directives := [] },
  { name := "code"
    rules := [.or (.or (.compare .within (.column "a")) .empty) (.compare .within (.column "b"))]
    directives := [] }]

def crossedFirst : Line where
  number := 2
  tokens := tokenize "@TotalColumns 2".toList 2

def crossedLines : List Line := [
  { number := 3, tokens := tokenize "id: is($code) notEmpty or not($Code)".toList 3 },
  { number := 4, tokens := tokenize "code: ends($id)".toList 4 },
  { number := 6, tokens := tokenize "code: in($a) or empty or in($b)".toList 6 }]

theorem hasValidLines_crossedText :
    HasValidLines crossedText crossedFirst crossedLines { total := 2, options := [] }
      crossedColumns := by
  have hlines : linesOf crossedText.toList = crossedFirst :: crossedLines := by cbv
  have hisLine := isLine_linesOf crossedText.toList
  rw [hlines] at hisLine
  obtain ⟨hfirst, hothers⟩ := List.forall_mem_cons.mp hisLine
  have hglobals : (globalsOf crossedFirst.tokens).result = .ok { total := 2, options := [] } := by
    cbv
  have hcolumns : (columnsOf crossedLines).result = .ok crossedColumns := by cbv
  exact ⟨hlines, globalsOf_sound hfirst hglobals, columnsOf_sound hothers hcolumns⟩

theorem parse_reports_crossMessages_of_crossedText :
    HasValidLines crossedText crossedFirst crossedLines { total := 2, options := [] }
        crossedColumns ∧
      TotalWithinLimit crossedText ∧ DepthWithinLimit crossedColumns ∧
      (¬∃ schema, (parse crossedText).result = .ok schema) ∧
      ∃ fault, (parse crossedText).result = .error fault ∧ fault.isDiagnosed = true ∧
        fault.messages = [
          { severity := .schema
            text := "@TotalColumns = 2 but number of columns defined = 3"
            line := some 2
            column := some (.position 1) },
          { severity := .schema
            text := "Column: id has invalid cross reference notEmpty or not($Code)"
            line := some 3
            column := some (.position 1) },
          { severity := .schema
            text := "Column: code has invalid cross reference in($a) or empty or in($b)"
            line := some 6
            column := some (.position 1) }] := by
  have hlines := hasValidLines_crossedText
  have hlimit : TotalWithinLimit crossedText := by
    have hfirst : (terminals crossedText).head? =
        some [⟨.directive, "TotalColumns"⟩, ⟨.word, "2"⟩, ⟨.endOfLine, ""⟩] := by cbv
    simp [TotalWithinLimit, CountWithinLimit, hfirst, totalLimit]
  obtain ⟨hsettled, -⟩ := parse_reports_crossMessages _ _ _ _ _ hlines
  have hdepth : DepthWithinLimit crossedColumns := by decide
  obtain ⟨hiff, hmessages⟩ := hsettled hlimit hdepth
  have hrejected : ¬∃ schema, (parse crossedText).result = .ok schema := by
    rw [hiff]
    exact fun h => absurd h.1 (by decide)
  refine ⟨hlines, hlimit, hdepth, hrejected, ?_⟩
  obtain ⟨fault, hparse, hdiagnosed, heq⟩ := hmessages hrejected
  exact ⟨fault, hparse, hdiagnosed, heq.trans (by cbv)⟩

/-! A long total -/

-- A total, and one column without rules.
def plainTextOf (total : String) : String :=
  String.intercalate "\n" ["@TotalColumns " ++ total, "A:"]

theorem terminals_plainTextOf {total : String} (h : IsWord total) :
    terminals (plainTextOf total) =
      [[⟨.directive, "TotalColumns"⟩, ⟨.word, total⟩, ⟨.endOfLine, ""⟩],
        [⟨.word, "A"⟩, ⟨.colon, ":"⟩, ⟨.endOfLine, ""⟩]] := by
  have hcolumn : "A:" = "A:" ++ "" := by decide
  have hrules : Reads "".toList [] := .nil
  rw [plainTextOf, hcolumn]
  exact terminals_singleColumn h hrules

-- A total of one, with as many zeros in front of it as a number may have digits.
def zerosTotal : String :=
  String.ofList (List.replicate totalLimit '0' ++ Nat.toDigits 10 1)

theorem isAsciiDigit_of_mem_zerosTotal : ∀ c ∈ zerosTotal.toList, isAsciiDigit c = true := by
  intro c hc
  rw [zerosTotal, String.toList_ofList] at hc
  rcases List.mem_append.mp hc with hc | hc
  · obtain rfl := List.eq_of_mem_replicate hc
    decide
  · exact Number.isAsciiDigit_of_mem_toDigits hc

theorem isTotal_zerosTotal : IsTotal ⟨.word, zerosTotal⟩ 1 := by
  refine ⟨rfl, ?_, isAsciiDigit_of_mem_zerosTotal, ?_, Nat.le_refl 1⟩
  · simp [zerosTotal]
  · dsimp only
    rw [zerosTotal, String.toList_ofList]
    exact (Number.digitsOf_zeros_append totalLimit 1).symm

-- The number of columns is the total, but the total is not read.
theorem parse_ne_ok_of_zerosTotal :
    ∃ first lines globals columns,
      HasValidLines (plainTextOf zerosTotal) first lines globals columns ∧
      lines.length = globals.total ∧
      (∀ column ∈ columns, ∀ rule ∈ column.rules, ∀ name,
        rule.RefersTo name → name ∈ columns.map Column.name) ∧
      ¬∃ schema, (parse (plainTextOf zerosTotal)).result = .ok schema := by
  have hword : IsWord zerosTotal :=
    ⟨isTotal_zerosTotal.written,
      fun c hc => isWordChar_of_isAsciiDigit (isAsciiDigit_of_mem_zerosTotal c hc)⟩
  have hterminals := terminals_plainTextOf hword
  obtain ⟨first, lines, hlines, hfirst, hothers⟩ := List.map_eq_cons_iff.mp hterminals
  have hglobals : IsGlobals (first.tokens.map Token.terminal) { total := 1, options := [] } := by
    rw [hfirst]
    exact .intro (by decide) isTotal_zerosTotal .nil (by decide)
  have hcolumns : List.Forall₂ IsColumn (lines.map fun line => line.tokens.map Token.terminal)
      [{ name := "A", rules := [], directives := [] }] := by
    rw [hothers]
    exact .cons (.intro .nil .nil .nil) .nil
  refine ⟨first, lines, _, _, ⟨hlines, hglobals, hcolumns⟩, ?_, ?_, ?_⟩
  · simpa using congrArg List.length hothers
  · simp
  · have hlimit : ¬TotalWithinLimit (plainTextOf zerosTotal) := by
      intro h
      have hlength := h _ (by rw [hterminals]; rfl) _ _ _ rfl (by decide)
        isAsciiDigit_of_mem_zerosTotal
      simp [zerosTotal] at hlength
    obtain ⟨fault, hparse, -⟩ := parse_isBroken_of_not_totalWithinLimit hlimit
    rintro ⟨schema, h⟩
    cases h.symm.trans hparse

end Schema

end TableSchema
