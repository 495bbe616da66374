import TableSchema.Proofs.Rule.Uniqueness
import TableSchema.Proofs.Table.Arrangement

namespace TableSchema

/-! Entries with a key of an earlier one -/

section Keys

variable {α κ : Type} [DecidableEq κ] (key : α → Option κ)

-- Whether the entry at an index has a key, and an entry before it has the same.
def repeatsAt (entries : List α) (index : Nat) : Bool :=
  (entries[index]?.bind key).any fun own => ((entries.take index).filterMap key).contains own

theorem repeatsAt_append_of_lt {entries : List α} {index : Nat} (h : index < entries.length)
    (others : List α) : repeatsAt key (entries ++ others) index = repeatsAt key entries index := by
  rw [repeatsAt, repeatsAt, List.getElem?_append_left h, List.take_append_of_le_length h.le]

theorem repeatsAt_length (entries : List α) (entry : α) :
    repeatsAt key (entries ++ [entry]) entries.length =
      (key entry).any fun own => (entries.filterMap key).contains own := by
  rw [repeatsAt, List.take_left, List.getElem?_concat_length, Option.bind_some]

theorem card_toFinset_concat (keys : List κ) (own : κ) :
    (if own ∈ keys then 1 else 0) + (keys ++ [own]).toFinset.card = keys.toFinset.card + 1 := by
  rw [List.toFinset_append, List.toFinset_cons, List.toFinset_nil, insert_empty_eq,
    Finset.union_comm, ← Finset.insert_eq]
  by_cases h : own ∈ keys
  · rw [if_pos h, Finset.insert_eq_of_mem (List.mem_toFinset.mpr h), Nat.add_comm]
  · rw [if_neg h, Finset.card_insert_of_notMem (fun hmem => h (List.mem_toFinset.mp hmem)),
      Nat.zero_add]

-- Every key is either repeated or stands first among its like.
theorem countP_repeatsAt_add_card (entries : List α) :
    (List.range entries.length).countP (repeatsAt key entries) +
      (entries.filterMap key).toFinset.card = (entries.filterMap key).length := by
  induction entries using List.reverseRecOn with
  | nil => rfl
  | append_singleton entries entry ih =>
      have hfront : (List.range entries.length).countP (repeatsAt key (entries ++ [entry])) =
          (List.range entries.length).countP (repeatsAt key entries) :=
        List.countP_congr fun index hindex => by
          rw [repeatsAt_append_of_lt key (List.mem_range.mp hindex)]
      rw [List.length_append, List.length_singleton, List.range_succ, List.countP_append, hfront,
        List.countP_singleton, repeatsAt_length, List.filterMap_append]
      cases hown : key entry with
      | none => simpa [hown] using ih
      | some own =>
          have hone : [entry].filterMap key = [own] := by simp [hown]
          have hcard := card_toFinset_concat (entries.filterMap key) own
          rw [hone, List.length_append, List.length_singleton]
          simp only [Option.any_some, List.contains_iff_mem]
          omega

end Keys

namespace Checker

section Column

variable {checker : Checker} {schema : Schema} {column : Column} {index : Nat}

-- What uniqueness compares in a row, if the row is looked at.
def keyAt? (checker : Checker) (schema : Schema) (entry : Column × Nat) (row : Csv.Row) :
    Option String :=
  (checker.question? schema entry row).map Rule.Question.key

theorem map_key_questions (entry : Column × Nat) (rows : List Csv.Row) :
    (checker.questions schema entry rows).map Rule.Question.key =
      rows.filterMap (checker.keyAt? schema entry) := by
  rw [questions, List.map_filterMap]
  rfl

theorem filterMap_keyAt? (rows : List Csv.Row) :
    rows.filterMap (checker.keyAt? schema (column, index)) =
      (schema.cellsAt index column rows).map column.fold := by
  have hkey : ∀ row, checker.keyAt? schema (column, index) row =
      if row.length == schema.total then
        (row[index]?.filter fun value => !(column.isOptional && value.isEmpty)).map column.fold
      else none := by
    intro row
    simp only [keyAt?, question?, beq_iff_eq]
    split
    · rw [Option.map_map]
      rfl
    · rfl
  rw [Schema.cellsAt, List.filter_filterMap, List.filterMap_filter, List.map_filterMap]
  refine List.filterMap_congr fun row _ => ?_
  rw [hkey]
  split
  · rfl
  · rfl

variable {data : List Csv.Row} {position : Nat} (hall : checker.failFast = false)
  (hjudge : (checker.judge schema [] schema.firstLine data).result = .ok ())
  (hcolumn : schema.columns[index]? = some column)
  (hrule : column.rules[position]? = some .unique) (hmatch : column.matchIsFalse = false)

include hall hjudge hcolumn hrule hmatch

-- A cell is reported on if its key is that of a cell before it.
theorem isSome_reportAt?_unique (count : Nat) :
    (checker.reportAt? schema data count index position).isSome =
      repeatsAt (checker.keyAt? schema (column, index)) data count := by
  cases hrow : data[count]? with
  | none => simp [reportAt?, repeatsAt, hrow]
  | some row =>
      rw [repeatsAt, hrow, Option.bind_some, ← map_key_questions, keyAt?]
      cases hquestion : checker.question? schema (column, index) row with
      | none =>
          rw [reportAt?_eq_none hall hjudge hrow hcolumn hrule hquestion]
          rfl
      | some question =>
          obtain ⟨holds, hanswer, hreport⟩ :=
            exists_answer_of_reportAt? hall hjudge hrow hcolumn hrule hquestion
          rw [Rule.answer_unique, Except.ok.injEq] at hanswer
          rw [hreport, isFailure, hmatch, ← hanswer, Option.map_some, Option.any_some]
          cases List.contains _ question.key with
          | true => rfl
          | false => rfl

end Column

end Checker

namespace Engine

-- In a column with unique cells one of each kind is not reported, whichever comes first. The
-- order of the rows does not matter to how many the others are.
theorem unique_reports_add_card (engine : Engine) (files : FileTree) (schema : Schema)
    (rows : List Csv.Row) (size total : Option Int) (display : Option Display)
    {index position : Nat} {column : Column} (hall : engine.failFast = false)
    (hcolumn : schema.columns[index]? = some column)
    (hrule : column.rules[position]? = some .unique) (hmatch : column.matchIsFalse = false)
    (hanswers : (engine.validate files schema { rows, size } display total).1.fault = none) :
    let run (rows : List Csv.Row) := (engine.validate files schema { rows, size } display total).1
    let report (rows : List Csv.Row) :=
      (engine.checker files).reportAt? schema (schema.dataRows rows)
    let reports (rows : List Csv.Row) := (List.range (schema.dataRows rows).length).countP
      fun count => (report rows count index position).isSome
    let cells := schema.cellsAt index column (schema.dataRows rows)
    (run rows).messages = schema.arranged rows (report rows) ∧
      reports rows + (cells.map column.fold).toFinset.card = cells.length ∧
      ∀ others : List Csv.Row, (schema.dataRows others).Perm (schema.dataRows rows) →
        (run others).fault = none → reports others = reports rows := by
  intro run report reports cells
  have hsum : ∀ rows : List Csv.Row, (run rows).fault = none →
      reports rows +
          ((schema.cellsAt index column (schema.dataRows rows)).map column.fold).toFinset.card =
        (schema.cellsAt index column (schema.dataRows rows)).length := by
    intro rows hfault
    have hjudge := (engine.validate_fault_eq_none_iff_judge _ _ _ _ _ _ hall).mp hfault
    have hcount : reports rows = (List.range (schema.dataRows rows).length).countP
        (repeatsAt ((engine.checker files).keyAt? schema (column, index)) (schema.dataRows rows)) := by
      simp only [reports, report,
        Checker.isSome_reportAt?_unique hall hjudge hcolumn hrule hmatch]
    have hkeys := countP_repeatsAt_add_card ((engine.checker files).keyAt? schema (column, index))
      (schema.dataRows rows)
    rwa [← hcount, Checker.filterMap_keyAt?, List.length_map] at hkeys
  refine ⟨messages_validate_eq_arranged hall hanswers, hsum rows hanswers, ?_⟩
  intro others hperm hfault
  have hcells : (schema.cellsAt index column (schema.dataRows others)).Perm cells :=
    ((hperm.filter _).filterMap _).filter _
  have hothers := hsum others hfault
  rw [List.toFinset_eq_of_perm _ _ (hcells.map column.fold), hcells.length_eq] at hothers
  exact Nat.add_right_cancel (hothers.trans (hsum rows hanswers).symm)

-- Codes that may be left out and do not repeat in any letter case.
def codeOfAnyCase : Column where
  name := "code"
  rules := [.notEmpty, .unique]
  directives := [.isOptional, .ignoreCase]

def codesOfAnyCase : Schema where
  hasHeader := true
  permitEmpty := false
  columns := [codeOfAnyCase]

def mixedCodes : List Csv.Row :=
  [["code"], ["a"], ["A"], [""], ["a", "b"], ["b"], ["a"]]

def shuffledCodes : List Csv.Row :=
  [["code"], ["A"], ["a", "b"], ["b"], ["a"], ["a"], [""]]

def codesRun (rows : List Csv.Row) : Run :=
  (validate {} .bare codesOfAnyCase { rows } none none).1

def repeatedLines (rows : List Csv.Row) : List (Option Int) :=
  ((codesRun rows).messages.filter (·.culprit == some "unique")).map Message.line

-- Two codes in four cells.
theorem unique_reports_add_card_of_mixedCodes :
    let report (rows : List Csv.Row) := (Engine.checker {} .bare).reportAt? codesOfAnyCase
      (codesOfAnyCase.dataRows rows)
    let reports (rows : List Csv.Row) :=
      (List.range (codesOfAnyCase.dataRows rows).length).countP fun count =>
        (report rows count 0 1).isSome
    let cells := codesOfAnyCase.cellsAt 0 codeOfAnyCase (codesOfAnyCase.dataRows mixedCodes)
    (codesRun mixedCodes).fault = none ∧ (codesRun shuffledCodes).fault = none ∧
      (codesRun mixedCodes).messages = codesOfAnyCase.arranged mixedCodes (report mixedCodes) ∧
      cells = ["a", "A", "b", "a"] ∧ reports mixedCodes = 2 ∧ reports shuffledCodes = 2 ∧
      repeatedLines mixedCodes = [some 3, some 7] ∧
      repeatedLines shuffledCodes = [some 5, some 6] := by
  intro report reports cells
  have hcolumn : codesOfAnyCase.columns[0]? = some codeOfAnyCase := rfl
  have hrule : codeOfAnyCase.rules[1]? = some Rule.unique := rfl
  have hanswers : (codesRun mixedCodes).fault = none := by cbv
  have hothers : (codesRun shuffledCodes).fault = none := by cbv
  have hperm : (codesOfAnyCase.dataRows shuffledCodes).Perm (codesOfAnyCase.dataRows mixedCodes) := by
    decide
  obtain ⟨harranged, hsum, hshuffled⟩ := unique_reports_add_card {} .bare codesOfAnyCase
    mixedCodes none none none rfl hcolumn hrule rfl hanswers
  have hcells : cells = ["a", "A", "b", "a"] := by cbv
  have hcard : (["a", "A", "b", "a"].map codeOfAnyCase.fold).toFinset.card = 2 := by cbv
  have hreports : reports mixedCodes = 2 := by
    change reports mixedCodes + (cells.map codeOfAnyCase.fold).toFinset.card = cells.length at hsum
    rw [hcells, hcard] at hsum
    exact Nat.add_right_cancel hsum
  exact ⟨hanswers, hothers, harranged, hcells, hreports, (hshuffled _ hperm hothers).trans hreports,
    by cbv, by cbv⟩

end Engine

end TableSchema
