import TableSchema.Proofs.Table.Reports

namespace TableSchema

/-! What a table is reported for, said without memories -/

namespace Rule

-- Whether the rule, or a side of an alternative within it, looks at earlier cells.
def hasUnique : Rule → Bool
  | .unique => true
  | .or left right => left.hasUnique || right.hasUnique
  | _ => false

-- No alternative looks at earlier cells.
def uniqueStandsAlone : Rule → Bool
  | .or left right => !left.hasUnique && !right.hasUnique
  | _ => true

-- Whether a cell satisfies the rule, if `earlier` are the cells of its column
-- that count among those before it.
def isMet (context : Context) (earlier : List String) (value : String) : Rule → Bool
  | .unique => !(earlier.map context.fold).contains (context.fold value)
  | .or left right => left.isMet context earlier value || right.isMet context earlier value
  | rule =>
    match rule.holds context value with
    | .ok holds => holds
    | .error _ => false

end Rule

namespace Schema

-- The cells in a column of the rows that have the right width, without those
-- that an optional column leaves out.
def cellsAt (schema : Schema) (index : Nat) (column : Column) (rows : List Csv.Row) :
    List String :=
  ((rows.filter fun row => row.length == schema.total).filterMap fun row => row[index]?).filter
    fun value => !(column.isOptional && value.isEmpty)

-- One message for each rule of the column that the cell does not satisfy, or
-- does satisfy where a match is a failure.
def cellFindings (schema : Schema) (checker : Checker) (before : List Csv.Row) (line : Nat)
    (row : Csv.Row) (index : Nat) (column : Column) (value : String) : List Message :=
  let context := checker.context schema.columnNames row column
  let earlier := schema.cellsAt index column before
  if column.isOptional && value.isEmpty then []
  else
    (column.rules.filter fun rule =>
      (rule.isMet context earlier value ^^ column.matchIsFalse) == false).map
        (Cell.message { column, line, value })

def rowFindings (schema : Schema) (checker : Checker) (before : List Csv.Row) (line : Nat)
    (row : Csv.Row) : List Message :=
  if row.length = schema.total then
    (schema.columns.zipIdx.zip row).flatMap fun ((column, index), value) =>
      schema.cellFindings checker before line row index column value
  else [widthMessage schema.total row.length line]

def findings (schema : Schema) (checker : Checker) (rows : List Csv.Row) : List Message :=
  let data := schema.dataRows rows
  (data.zipIdx.flatMap fun (row, count) =>
      schema.rowFindings checker (data.take count) (schema.firstLine + count) row) ++
    if data.isEmpty && !schema.permitEmpty then [emptyMessage] else []

end Schema

/-! Memories -/

-- The memory of each rule that stands for uniqueness holds the folded values of
-- the cells seen.
def Recalls (fold : String → String) (seen : List String) (rules : List (Rule × Rule.Memory)) :
    Prop :=
  ∀ memory, (.unique, memory) ∈ rules →
    ∀ key, memory.values.contains key = (seen.map fold).contains key

theorem recalls_initialMemory (fold : String → String) (rules : List Rule) :
    Recalls fold [] (rules.map fun rule => (rule, rule.initialMemory)) := by
  intro memory hm key
  obtain ⟨rule, -, he⟩ := List.mem_map.mp hm
  obtain ⟨rfl, rfl⟩ := Prod.mk.inj he
  simp [Rule.initialMemory, Rule.Memory.values]

namespace Rule

-- A rule that does not look at earlier cells has the same answer whatever it
-- remembers.
theorem isMet_of_evaluate {context : Context} {earlier : List String} {value : String}
    {rule : Rule} {memory after : Memory} {holds : Bool} (hu : rule.hasUnique = false)
    (he : rule.evaluate context value memory = (.ok holds, after)) :
    rule.isMet context earlier value = holds := by
  induction rule generalizing memory after holds with
  | unique => simp [hasUnique] at hu
  | or left right ihl ihr =>
      simp only [hasUnique, Bool.or_eq_false_iff] at hu
      simp only [evaluate] at he
      split at he
      · rename_i leftMemory hl
        obtain ⟨ha, -⟩ := Prod.mk.inj he
        have hr : right.evaluate context value memory.right = (.ok holds, _) := Prod.ext ha rfl
        simp only [isMet, ihl hu.1 hl, ihr hu.2 hr, Bool.false_or]
      · rename_i answer leftMemory hne hl
        obtain ⟨rfl, -⟩ := Prod.mk.inj he
        cases holds with
        | true => simp only [isMet, ihl hu.1 hl, Bool.true_or]
        | false => exact absurd rfl hne
  | _ =>
      simp only [evaluate, Prod.mk.injEq] at he
      simp only [isMet, he.1]

-- Uniqueness is asked of the folded value, which is remembered from then on.
theorem record_values {context : Context} {seen : List String} {value : String}
    {values : Std.HashSet String}
    (hs : ∀ key, values.contains key = (seen.map context.fold).contains key) :
    (record (context.fold value) values).1 = unique.isMet context seen value ∧
      ∀ key, (record (context.fold value) values).2.contains key =
        ((seen ++ [value]).map context.fold).contains key := by
  have hkey := hs (context.fold value)
  cases hc : values.contains (context.fold value) with
  | true =>
      simp only [record, hc, if_true, isMet, ← hkey, Bool.not_true, true_and]
      intro key
      by_cases he : key = context.fold value
      · simp [he, hc]
      · simp [hs key, he]
  | false =>
      simp only [record, hc, Bool.false_eq_true, if_false, isMet, ← hkey, Bool.not_false, true_and]
      intro key
      by_cases he : key = context.fold value
      · simp [he]
      · simp [Std.HashSet.contains_insert, hs key, he, Ne.symm he]

-- One evaluation: the answer is that of the reference, and the memory holds the
-- cell as well.
theorem evaluate_eq_isMet {context : Context} {seen : List String} {value : String} {rule : Rule}
    {memory after : Memory} {holds : Bool} (hplain : rule.uniqueStandsAlone = true)
    (hs : rule = .unique →
      ∀ key, memory.values.contains key = (seen.map context.fold).contains key)
    (he : rule.evaluate context value memory = (.ok holds, after)) :
    rule.isMet context seen value = holds ∧
      (rule = .unique →
        ∀ key, after.values.contains key = ((seen ++ [value]).map context.fold).contains key) := by
  cases rule with
  | unique =>
      obtain ⟨hm, ha⟩ := record_values (hs rfl)
      simp only [evaluate, Prod.mk.injEq, Except.ok.injEq] at he
      obtain ⟨rfl, rfl⟩ := he
      exact ⟨hm.symm, fun _ => ha⟩
  | or left right =>
      have hu : (or left right).hasUnique = false := by
        simpa [uniqueStandsAlone, hasUnique] using hplain
      exact ⟨isMet_of_evaluate hu he, nofun⟩
  | _ => exact ⟨isMet_of_evaluate rfl he, nofun⟩

end Rule

theorem Check.congruence_ne_firstError :
    Check.Congruence (fun check _ => check.result ≠ .error .firstError) false false where
  pure _ := nofun
  report _ := nofun
  fault _ := nofun
  bind {α β first _ next _} hfirst hnext := by
    cases hr : first.result with
    | error halt =>
        rw [hr] at hfirst
        rw [Check.bind_of_error hr]
        exact fun h => hfirst (congrArg _ (Except.error.inj h))
    | ok value =>
        rw [Check.bind_of_ok hr]
        exact hnext value

namespace Checker

theorem isFailure_eq_xor (column : Column) (holds : Bool) :
    isFailure column holds = ((holds ^^ column.matchIsFalse) == false) := by
  cases holds <;> cases h : column.matchIsFalse <;> simp [isFailure, h]

-- One rule of a cell: it has an answer, and a message if the answer is a failure.
theorem checkRule_eq_ok {checker : Checker} {context : Rule.Context} {cell : Cell} {rule : Rule}
    {memory : Rule.Memory} {messages : List Message} {entry : Rule × Rule.Memory}
    (hall : checker.failFast = false)
    (h : checker.checkRule context cell rule memory = ⟨messages, .ok entry⟩) :
    ∃ holds after, rule.evaluate context cell.value memory = (.ok holds, after) ∧
      entry = (rule, after) ∧
      messages = if isFailure cell.column holds then [cell.message rule] else [] := by
  simp only [checkRule, hall] at h
  split at h
  · cases h
  · rename_i holds after he
    refine ⟨holds, after, he, ?_⟩
    split at h
    · rename_i hf
      obtain ⟨before, _, rest, hr, hp, rfl⟩ := Check.bind_eq_ok_iff.mp h
      obtain ⟨rfl, -⟩ := Check.mk.inj hr
      obtain ⟨rfl, rfl⟩ := Check.pure_eq_ok_iff.mp hp
      simp [hf]
    · rename_i hf
      obtain ⟨rfl, rfl⟩ := Check.pure_eq_ok_iff.mp h
      simp [hf]

-- The rules of a cell: the messages are those of the rules that it does not
-- meet, and behind them the cell is among those seen.
theorem checkRules_eq_ok {checker : Checker} {context : Rule.Context} {cell : Cell}
    {rules after : List (Rule × Rule.Memory)} {messages : List Message} {seen : List String}
    (hall : checker.failFast = false)
    (hplain : ∀ rule ∈ rules.map Prod.fst, rule.uniqueStandsAlone = true)
    (hs : Recalls context.fold seen rules)
    (h : checker.checkRules context cell rules = ⟨messages, .ok after⟩) :
    messages = ((rules.map Prod.fst).filter fun rule =>
        (rule.isMet context seen cell.value ^^ cell.column.matchIsFalse) == false).map cell.message ∧
      after.map Prod.fst = rules.map Prod.fst ∧
      Recalls context.fold (seen ++ [cell.value]) after := by
  induction rules generalizing messages after with
  | nil =>
      obtain ⟨rfl, rfl⟩ := Check.pure_eq_ok_iff.mp h
      exact ⟨rfl, rfl, by simp [Recalls]⟩
  | cons first rest ih =>
      obtain ⟨rule, memory⟩ := first
      obtain ⟨before, entry, later, hfirst, hrest, rfl⟩ := Check.bind_eq_ok_iff.mp h
      obtain ⟨middle, others, last, hothers, hpure, rfl⟩ := Check.bind_eq_ok_iff.mp hrest
      obtain ⟨rfl, rfl⟩ := Check.pure_eq_ok_iff.mp hpure
      obtain ⟨holds, memory', he, rfl, rfl⟩ := checkRule_eq_ok hall hfirst
      have hmet := Rule.evaluate_eq_isMet (hplain rule (by simp))
        (fun hr => hs memory (by simp [hr])) he
      obtain ⟨rfl, hmap, hrec⟩ := ih (fun r hr => hplain r (List.mem_cons_of_mem _ hr))
        (fun m hm => hs m (List.mem_cons_of_mem _ hm)) hothers
      refine ⟨?_, by simp [hmap], ?_⟩
      · rw [List.append_nil, isFailure_eq_xor, ← hmet.1, List.map_cons, List.filter_cons]
        split <;> rfl
      · intro m hm
        rcases List.mem_cons.mp hm with heq | hm
        · obtain ⟨rfl, rfl⟩ := Prod.mk.inj heq
          exact hmet.2 rfl
        · exact hrec m hm

end Checker

/-! Columns -/

def Column.fold (column : Column) (text : String) : String :=
  if column.ignoreCase then String.ofList (Text.foldText text.toList) else text

-- A track belongs to a column and recalls the cells seen in it.
structure Track.Follows (track : Track) (column : Column) (seen : List String) : Prop where
  sameColumn : track.column = column
  sameRules : track.rules.map Prod.fst = column.rules
  recalls : Recalls column.fold seen track.rules

theorem Track.follows_ofColumn (column : Column) : (Track.ofColumn column).Follows column [] where
  sameColumn := rfl
  sameRules := by simp [ofColumn, Function.comp_def]
  recalls := recalls_initialMemory column.fold column.rules

namespace Schema

theorem cellsAt_append_of_width {schema : Schema} {index : Nat} {column : Column}
    {before : List Csv.Row} {row : Csv.Row} {value : String} (hwidth : row.length = schema.total)
    (hvalue : row[index]? = some value) :
    schema.cellsAt index column (before ++ [row]) = schema.cellsAt index column before ++
      if column.isOptional && value.isEmpty then [] else [value] := by
  have hlast : [row].filter (fun row => row.length == schema.total) = [row] := by simp [hwidth]
  simp only [cellsAt, List.filter_append, hlast, List.filterMap_append, List.filterMap_cons, hvalue,
    List.filterMap_nil, List.filter_cons, List.filter_nil]
  cases column.isOptional && value.isEmpty <;> rfl

theorem cellsAt_append_of_other_width {schema : Schema} {index : Nat} {column : Column}
    {before : List Csv.Row} {row : Csv.Row} (hwidth : row.length ≠ schema.total) :
    schema.cellsAt index column (before ++ [row]) = schema.cellsAt index column before := by
  simp [cellsAt, List.filter_append, hwidth]

-- Each track recalls what its column has in the rows before.
def Tracked (schema : Schema) (before : List Csv.Row) (tracks : List Track)
    (entries : List (Column × Nat)) : Prop :=
  List.Forall₂ (fun track entry => track.Follows entry.1 (schema.cellsAt entry.2 entry.1 before))
    tracks entries

theorem tracked_ofColumn (schema : Schema) :
    schema.Tracked [] (schema.columns.map Track.ofColumn) schema.columns.zipIdx := by
  refine List.forall₂_iff_get.mpr ⟨by simp, fun i hi hj => ?_⟩
  simp only [List.get_eq_getElem, List.getElem_zipIdx, List.getElem_map]
  exact Track.follows_ofColumn _

end Schema

namespace Checker

theorem checkCell_eq_ok {checker : Checker} {schema : Schema} {before : List Csv.Row} {line : Nat}
    {row : Csv.Row} {index : Nat} {column : Column} {value : String} {track after : Track}
    {messages : List Message} (hall : checker.failFast = false)
    (hplain : ∀ rule ∈ column.rules, rule.uniqueStandsAlone = true)
    (hwidth : row.length = schema.total) (hvalue : row[index]? = some value)
    (hfollows : track.Follows column (schema.cellsAt index column before))
    (h : checker.checkCell (checker.context schema.columnNames row track.column) line track value =
      ⟨messages, .ok after⟩) :
    messages = schema.cellFindings checker before line row index column value ∧
      after.Follows column (schema.cellsAt index column (before ++ [row])) := by
  obtain ⟨rfl, hrules, hrec⟩ := hfollows
  rw [Schema.cellsAt_append_of_width hwidth hvalue]
  simp only [checkCell] at h
  simp only [Schema.cellFindings]
  split at h
  · rename_i hskip
    obtain ⟨rfl, rfl⟩ := Check.pure_eq_ok_iff.mp h
    simp only [hskip, if_true, List.append_nil, true_and]
    exact ⟨rfl, hrules, hrec⟩
  · rename_i hlook
    obtain ⟨own, rules, rest, hown, hpure, rfl⟩ := Check.bind_eq_ok_iff.mp h
    obtain ⟨rfl, rfl⟩ := Check.pure_eq_ok_iff.mp hpure
    have hseen : Recalls (checker.context schema.columnNames row track.column).fold
        (schema.cellsAt index track.column before) track.rules := hrec
    obtain ⟨rfl, hmap, hafter⟩ := checkRules_eq_ok hall (hrules ▸ hplain) hseen hown
    simp only [hlook, Bool.false_eq_true, if_false, List.append_nil, hrules, true_and]
    exact ⟨rfl, hmap.trans hrules, hafter⟩

theorem checkCells_eq_ok {checker : Checker} {schema : Schema} {before : List Csv.Row} {line : Nat}
    {row : Csv.Row} {entries : List (Column × Nat)} {values : List String}
    {tracks after : List Track} {messages : List Message} (hall : checker.failFast = false)
    (hplain : ∀ entry ∈ entries, ∀ rule ∈ entry.1.rules, rule.uniqueStandsAlone = true)
    (hwidth : row.length = schema.total)
    (hvalues : List.Forall₂ (fun entry value => row[entry.2]? = some value) entries values)
    (htracked : schema.Tracked before tracks entries)
    (h : checker.checkCells schema.columnNames row line tracks values = ⟨messages, .ok after⟩) :
    (messages = (entries.zip values).flatMap fun ((column, index), value) =>
        schema.cellFindings checker before line row index column value) ∧
      schema.Tracked (before ++ [row]) after entries := by
  induction htracked generalizing values messages after with
  | nil =>
      cases hvalues
      obtain ⟨rfl, rfl⟩ := Check.pure_eq_ok_iff.mp h
      exact ⟨rfl, .nil⟩
  | @cons track entry tracks entries hfollows htracked ih =>
      cases hvalues with
      | cons hvalue hvalues =>
          obtain ⟨own, first, rest, hfirst, hrest, rfl⟩ := Check.bind_eq_ok_iff.mp h
          obtain ⟨middle, others, last, hothers, hpure, rfl⟩ := Check.bind_eq_ok_iff.mp hrest
          obtain ⟨rfl, rfl⟩ := Check.pure_eq_ok_iff.mp hpure
          obtain ⟨rfl, hf⟩ :=
            checkCell_eq_ok hall (hplain entry (by simp)) hwidth hvalue hfollows hfirst
          obtain ⟨rfl, ht⟩ := ih (fun e he => hplain e (List.mem_cons_of_mem _ he)) hvalues hothers
          exact ⟨by simp, .cons hf ht⟩

-- A row of the right width is seen from then on, one of another width is not.
theorem checkRow_eq_ok {checker : Checker} {schema : Schema} {before : List Csv.Row} {line : Nat}
    {row : Csv.Row} {tracks after : List Track} {messages : List Message}
    (hall : checker.failFast = false)
    (hplain : ∀ column ∈ schema.columns, ∀ rule ∈ column.rules, rule.uniqueStandsAlone = true)
    (htracked : schema.Tracked before tracks schema.columns.zipIdx)
    (h : checker.checkRow schema line tracks row = ⟨messages, .ok after⟩) :
    messages = schema.rowFindings checker before line row ∧
      schema.Tracked (before ++ [row]) after schema.columns.zipIdx := by
  simp only [checkRow] at h
  simp only [Schema.rowFindings]
  split at h
  · rename_i hwidth
    obtain ⟨own, _, rest, hreport, hpure, rfl⟩ := Check.bind_eq_ok_iff.mp h
    obtain ⟨rfl, rfl⟩ := Check.pure_eq_ok_iff.mp hpure
    rw [hall, Check.report_false] at hreport
    obtain ⟨rfl, -⟩ := Check.mk.inj hreport
    simp only [hwidth, if_false, List.append_nil, true_and]
    unfold Schema.Tracked at *
    simpa only [Schema.cellsAt_append_of_other_width hwidth] using htracked
  · rename_i hwidth
    rw [not_not] at hwidth
    have hvalues : List.Forall₂ (fun (entry : Column × Nat) value => row[entry.2]? = some value)
        schema.columns.zipIdx row := by
      rw [List.forall₂_iff_get]
      refine ⟨by simpa [Schema.total] using hwidth.symm, fun i hi hj => ?_⟩
      simp [List.getElem?_eq_getElem hj]
    have hplain' : ∀ entry ∈ schema.columns.zipIdx, ∀ rule ∈ entry.1.rules,
        rule.uniqueStandsAlone = true :=
      fun entry he => hplain entry.1 (List.fst_mem_of_mem_zipIdx he)
    obtain ⟨rfl, ht⟩ := checkCells_eq_ok hall hplain' hwidth hvalues htracked h
    exact ⟨by simp only [hwidth, if_true], ht⟩

-- The rows of a run: each is judged by those before it in the list.
theorem sweep_eq_ok {checker : Checker} {schema : Schema} {before : List Csv.Row} {line : Nat}
    {rows : List Csv.Row} {tracks after : List Track} {messages : List Message}
    (hall : checker.failFast = false)
    (hplain : ∀ column ∈ schema.columns, ∀ rule ∈ column.rules, rule.uniqueStandsAlone = true)
    (htracked : schema.Tracked before tracks schema.columns.zipIdx)
    (h : checker.sweep schema line tracks rows = ⟨messages, .ok after⟩) :
    messages = rows.zipIdx.flatMap fun (row, count) =>
      schema.rowFindings checker (before ++ rows.take count) (line + count) row := by
  induction rows generalizing before line tracks messages with
  | nil =>
      obtain ⟨rfl, -⟩ := Check.pure_eq_ok_iff.mp h
      rfl
  | cons row rows ih =>
      obtain ⟨own, middle, rest, hrow, hrest, rfl⟩ := Check.bind_eq_ok_iff.mp h
      obtain ⟨rfl, ht⟩ := checkRow_eq_ok hall hplain htracked hrow
      rw [ih ht hrest, List.zipIdx_cons, List.flatMap_cons, Nat.zero_add, List.zipIdx_succ,
        List.flatMap_map]
      simp only [List.take_zero, List.append_nil, Nat.add_zero, List.take_succ_cons,
        List.append_assoc, List.singleton_append, Nat.add_assoc, Nat.add_comm 1]

-- Without the demand to stop, checking ends early only at a fault.
theorem checkFeed_ne_firstError {checker : Checker} (hall : checker.failFast = false)
    (schema : Schema) (feed : Feed) :
    (checker.checkFeed schema feed).result ≠ .error .firstError :=
  checkFeed_related (hall ▸ Check.congruence_ne_firstError) schema feed

end Checker

namespace Engine

-- The outcome of a run to the end is what the schema says about each row.
theorem validate_outcome_eq_findings (engine : Engine) (files : FileTree) (schema : Schema)
    (rows : List Csv.Row) (size total : Option Int) (display : Option Display)
    (hall : engine.failFast = false)
    (hplain : ∀ column ∈ schema.columns, ∀ rule ∈ column.rules, rule.uniqueStandsAlone = true)
    (hanswers : (engine.validate files schema { rows, size } display total).1.fault = none) :
    (engine.validate files schema { rows, size } display total).1.outcome =
      .ok (schema.findings (engine.checker files) rows) := by
  let run := (engine.validate files schema { rows, size } display total).1
  let check := (engine.checker files).checkFeed schema { rows, size }
  obtain ⟨hmessages, hfault⟩ : run.messages = check.messages ∧
      run.fault = Job.faultOf none check.result := Job.run_eq_checkFeed _ { rows, size }
  have hne : check.result ≠ .error .firstError := Checker.checkFeed_ne_firstError hall schema _
  have hresult : check.result = .ok () := by
    rw [show run.fault = none from hanswers] at hfault
    match hr : check.result with
    | .ok () => rfl
    | .error .firstError => exact absurd hr hne
    | .error (.fault fault) =>
        rw [hr] at hfault
        cases hfault
  have hcheck : check = ⟨run.messages, .ok ()⟩ := by rw [hmessages, ← hresult]
  obtain ⟨own, after, last, hsweep, hlast, hm⟩ := Check.bind_eq_ok_iff.mp hcheck
  have hown := Checker.sweep_eq_ok hall hplain schema.tracked_ofColumn hsweep
  have hlast' : last =
      if (schema.dataRows rows).isEmpty && !schema.permitEmpty then [emptyMessage] else [] := by
    have hcond : (schema.firstLine + (schema.dataRows rows).length == schema.firstLine) =
        (schema.dataRows rows).isEmpty := by
      cases schema.dataRows rows <;> simp
    simp only [Option.isNone_none, Bool.true_and, hcond] at hlast
    split at hlast
    · rename_i hc
      rw [if_pos hc]
      exact (Check.mk.inj hlast).1.symm
    · rename_i hc
      rw [if_neg hc]
      exact (Check.pure_eq_ok_iff.mp hlast).1
  rw [Run.outcome_of_fault_eq_none hanswers, show run.messages = own ++ last from hm, hown, hlast']
  rfl

-- Codes that are unique in any letter case, and notes that are not the code.
def codesAndNotes : Schema where
  hasHeader := true
  permitEmpty := false
  columns := [
    { name := "code", rules := [.unique, .or .notEmpty .uuid4], directives := [.ignoreCase] },
    { name := "note", rules := [.compare .different (.column "code")],
      directives := [.isOptional, .warning] }]

-- The second code repeats the first one, the note before it is the code, and the
-- last row has no note.
def repeatedCodes : List Csv.Row :=
  [["code", "note"], ["a", "a"], ["A", ""], ["b"]]

theorem validate_outcome_eq_findings_of_repeatedCodes :
    let engine : Engine := {}
    let run := (engine.validate .bare codesAndNotes { rows := repeatedCodes } none none).1
    engine.failFast = false ∧
      (∀ column ∈ codesAndNotes.columns, ∀ rule ∈ column.rules, rule.uniqueStandsAlone = true) ∧
      run.fault = none ∧
      run.outcome = .ok (codesAndNotes.findings (engine.checker .bare) repeatedCodes) ∧
      (codesAndNotes.findings (engine.checker .bare) repeatedCodes).map Message.text =
        ["not($code) fails for line: 2, column: note, value: \"a\"",
          "unique fails for line: 3, column: code, value: \"A\"",
          "Expected @TotalColumns of 2 and found 1 on line 4"] := by
  intro engine run
  have hplain : ∀ column ∈ codesAndNotes.columns, ∀ rule ∈ column.rules,
      rule.uniqueStandsAlone = true := by
    simp [codesAndNotes, Rule.uniqueStandsAlone, Rule.hasUnique]
  have hanswers : (Engine.validate {} .bare codesAndNotes { rows := repeatedCodes }
      none none).1.fault = none := by cbv
  exact ⟨rfl, hplain, hanswers,
    engine.validate_outcome_eq_findings _ _ _ _ _ _ rfl hplain hanswers, by decide⟩

end Engine

end TableSchema
