import TableSchema.Proofs.Schema.Unbroken
import TableSchema.Proofs.Table.FileErrors
import TableSchema.Proofs.Table.History

namespace TableSchema

open TableSchema.Text

/-! Pieces between separators -/

section Pieces

variable {α : Type} [DecidableEq α] (separator : α)

theorem length_splitOn (xs : List α) :
    (xs.splitOn separator).length = xs.count separator + 1 := by
  induction xs with
  | nil => simp
  | cons x xs ih =>
      rw [List.splitOn_cons_eq_if_modifyHead, List.count_cons]
      split <;> simp [ih]

theorem count_intercalate {pieces : List (List α)} (hne : pieces ≠ []) :
    ([separator].intercalate pieces).count separator + 1 =
      pieces.length + (pieces.map (List.count separator)).sum := by
  induction pieces with
  | nil => exact absurd rfl hne
  | cons piece pieces ih =>
      cases pieces with
      | nil => simp; omega
      | cons next pieces =>
          have hothers := ih (List.cons_ne_nil _ _)
          rw [List.intercalate_cons_cons, List.map_cons, List.sum_cons, List.length_cons]
          simp only [List.count_append, List.count_singleton_self]
          omega

variable {separator}

-- No piece is lost, and there are more of them if one holds the separator.
theorem length_splitOn_intercalate {pieces : List (List α)} (hne : pieces ≠ []) :
    (([separator].intercalate pieces).splitOn separator).length =
      pieces.length + (pieces.map (List.count separator)).sum := by
  rw [length_splitOn, count_intercalate separator hne]

theorem length_splitOn_intercalate_eq_iff {pieces : List (List α)} (hne : pieces ≠ []) :
    (([separator].intercalate pieces).splitOn separator).length = pieces.length ↔
      ∀ piece ∈ pieces, separator ∉ piece := by
  have hsum : (pieces.map (List.count separator)).sum = 0 ↔ ∀ piece ∈ pieces, separator ∉ piece := by
    simp [List.sum_eq_zero_iff, List.count_eq_zero]
  rw [length_splitOn_intercalate hne, ← hsum]
  omega

theorem splitOn_intercalate_eq_iff {pieces : List (List α)} (hne : pieces ≠ []) :
    ([separator].intercalate pieces).splitOn separator = pieces ↔
      ∀ piece ∈ pieces, separator ∉ piece := by
  constructor
  · intro heq
    exact (length_splitOn_intercalate_eq_iff hne).mp (congrArg List.length heq)
  · intro h
    exact List.splitOn_intercalate separator h hne

end Pieces

/-! Reports that hold a line feed -/

theorem unbroken_lead (severity : Severity) : Unbroken severity.lead := by
  cases severity <;> decide

theorem unbroken_widthMessage (total found line : Nat) :
    Unbroken (widthMessage total found line).text := by
  have hfront : Unbroken "Expected @TotalColumns of " := by decide
  have hfound : Unbroken " and found " := by decide
  have hline : Unbroken " on line " := by decide
  exact ((((hfront.append (unbroken_toString total)).append hfound).append
    (unbroken_toString found)).append hline).append (unbroken_toString line)

theorem unbroken_utf8Message (line column : Nat) : Unbroken (Csv.utf8Message line column).text := by
  have hfront : Unbroken "[UTF-8 Error][@" := by decide
  have hcolon : Unbroken ":" := by decide
  have hbehind : Unbroken "] Invalid UTF-8 sequence" := by decide
  exact (((hfront.append (unbroken_toString line)).append hcolon).append
    (unbroken_toString column)).append hbehind

namespace Cell

theorem mem_text_of_mem_value {cell : Cell} {c : Char} (h : c ∈ cell.value.toList) (rule : Rule) :
    c ∈ (cell.message rule).text.toList := by
  simp [message, h]

-- What stands around the value is on one line.
theorem mem_value_of_mem_text {cell : Cell} {rule : Rule} {c : Char} (hname : Unbroken cell.column.name)
    (hrule : Unbroken rule.render) (hbreak : isLineBreak c = true)
    (h : c ∈ (cell.message rule).text.toList) : c ∈ cell.value.toList := by
  have hfront : Unbroken (rule.render ++ " fails for line: " ++ toString cell.line ++ ", column: " ++
      cell.column.name ++ ", value: \"") := by
    have hline : Unbroken " fails for line: " := by decide
    have hcolumn : Unbroken ", column: " := by decide
    have hvalue : Unbroken ", value: \"" := by decide
    exact ((((hrule.append hline).append (unbroken_toString cell.line)).append hcolumn).append
      hname).append hvalue
  have hbehind : Unbroken "\"" := by decide
  rw [message, String.toList_append, String.toList_append, List.mem_append, List.mem_append] at h
  rcases h with (hc | hc) | hc
  · exact absurd (hfront c hc) (by simp [hbreak])
  · exact hc
  · exact absurd (hbehind c hc) (by simp [hbreak])

end Cell

namespace Message

-- No cell that is reported holds a line feed.
def QuotesNoLineFeed (messages : List Message) : Prop :=
  ∀ (cell : Cell) (rule : Rule), cell.message rule ∈ messages → '\n' ∉ cell.value.toList

theorem newline_mem_listed_iff {message : Message} :
    '\n' ∈ message.listed.toList ↔ '\n' ∈ message.text.toList := by
  rw [listed, String.toList_append, List.mem_append]
  exact or_iff_right (unbroken_lead message.severity).newline_notMem

end Message

-- On one line is every report on a table that does not quote a line feed.
theorem Schema.Reported.newline_notMem {text : String} {schema : Schema} {message : Message}
    (hparse : (Schema.parse text).result = .ok schema) (h : schema.Reported message)
    (hquoted : ∀ (cell : Cell) (rule : Rule), message = cell.message rule → '\n' ∉ cell.value.toList) :
    '\n' ∉ message.text.toList := by
  cases h with
  | noRows =>
      have hempty : Unbroken emptyMessage.text := by decide
      exact hempty.newline_notMem
  | flaw line column => exact (unbroken_utf8Message line column).newline_notMem
  | row hreports =>
      cases hreports with
      | width => exact (unbroken_widthMessage _ _ _).newline_notMem
      | cell hcolumn _ hrule =>
          obtain ⟨hname, hrules⟩ := Schema.unbroken_of_parse hparse _ (List.mem_of_getElem? hcolumn)
          intro hnewline
          exact hquoted _ _ rfl (Cell.mem_value_of_mem_text hname (hrules _ hrule) (by decide) hnewline)

namespace Engine

-- The lines of a listing are its reports exactly if no cell that is reported holds a line
-- feed. Otherwise there are more lines than reports.
theorem lines_listing_eq_iff {text : String} {engine : Engine} {call : Call} {messages : List Message}
    (hparse : (Schema.parse text).result = .ok call.schema)
    (houtcome : (engine.perform call).1.outcome = .ok messages) (hne : messages ≠ []) :
    let lines := (Message.listing messages).toList.splitOn '\n'
    (lines = messages.map (fun message => message.listed.toList) ↔ Message.QuotesNoLineFeed messages) ∧
      (lines.length = messages.length ↔ Message.QuotesNoLineFeed messages) ∧
      messages.length ≤ lines.length := by
  intro lines
  let pieces := messages.map fun message => message.listed.toList
  have hpieces : pieces ≠ [] := by simpa [pieces] using hne
  have hlines : lines = (['\n'].intercalate pieces).splitOn '\n' := by
    simp only [lines, pieces, Message.listing, String.toList_intercalate, List.map_map]
    rfl
  have hlength : pieces.length = messages.length := List.length_map _
  have hquoted : (∀ piece ∈ pieces, '\n' ∉ piece) ↔ Message.QuotesNoLineFeed messages := by
    simp only [pieces, List.forall_mem_map, Message.newline_mem_listed_iff]
    constructor
    · intro h cell rule hmessage hnewline
      exact h _ hmessage (Cell.mem_text_of_mem_value hnewline rule)
    · intro h message hmessage
      have hreported : call.schema.Reported message := by
        rw [← Run.messages_of_outcome houtcome] at hmessage
        exact reported_of_perform hmessage
      refine hreported.newline_notMem hparse fun cell rule hcell => ?_
      exact h cell rule (hcell ▸ hmessage)
  refine ⟨?_, ?_, ?_⟩
  · rw [hlines, splitOn_intercalate_eq_iff hpieces, hquoted]
  · rw [hlines, ← hlength, length_splitOn_intercalate_eq_iff hpieces, hquoted]
  · rw [hlines, length_splitOn_intercalate hpieces, hlength]
    exact Nat.le_add_right _ _

def emptyCellsText : String :=
  "@TotalColumns 1 @noHeader\nA: empty"

-- A file of one row, whose cell looks like the end of a report and all of another one,
-- and a file of two rows.
def forgingFiles : FileTree where
  entries := [
    (["a.csv"], .file (Utf8.encode
      "\"a\"\"\nError:   empty fails for line: 2, column: A, value: \"\"b\"\n".toList)),
    (["b.csv"], .file (Utf8.encode "a\nb\n".toList))]
  workingDirectory := []

def forgingRun (path : String) : Run :=
  (perform {} (.file forgingFiles emptyCells path "utf-8" true none)).1

theorem parse_emptyCellsText : (Schema.parse emptyCellsText).result = .ok emptyCells := by
  cbv

theorem listed_forgingRun_one :
    ((forgingRun "a.csv").fault, (forgingRun "a.csv").messages.map Message.listed) =
      (none, ["Error:   empty fails for line: 1, column: A, value: \"a\"\n" ++
        "Error:   empty fails for line: 2, column: A, value: \"b\""]) := by
  cbv

theorem listed_forgingRun_two :
    ((forgingRun "b.csv").fault, (forgingRun "b.csv").messages.map Message.listed) =
      (none, ["Error:   empty fails for line: 1, column: A, value: \"a\"",
        "Error:   empty fails for line: 2, column: A, value: \"b\""]) := by
  cbv

-- Two reports take two lines.
theorem lines_listing_eq_iff_of_forgingFiles :
    let call : Call := .file forgingFiles emptyCells "b.csv" "utf-8" true none
    let messages := (forgingRun "b.csv").messages
    let lines := (Message.listing messages).toList.splitOn '\n'
    (Schema.parse emptyCellsText).result = .ok call.schema ∧
      (perform {} call).1.outcome = .ok messages ∧ messages ≠ [] ∧
      lines = messages.map (fun message => message.listed.toList) ∧
      Message.QuotesNoLineFeed messages := by
  intro call messages lines
  obtain ⟨hfault, hlisted⟩ := Prod.mk.inj listed_forgingRun_two
  have houtcome : (perform {} call).1.outcome = .ok messages := Run.outcome_of_fault_eq_none hfault
  have hcount : messages.length = 2 := by
    rw [← List.length_map Message.listed, hlisted]
    rfl
  have hne : messages ≠ [] := List.ne_nil_of_length_pos (by omega)
  have hlength : lines.length = 2 := by
    simp only [lines, messages, Message.listing, hlisted]
    decide
  obtain ⟨hlines, hlengths, -⟩ := lines_listing_eq_iff parse_emptyCellsText houtcome hne
  have hquoted := hlengths.mp (hlength.trans hcount.symm)
  exact ⟨parse_emptyCellsText, houtcome, hne, hlines.mpr hquoted, hquoted⟩

-- The listings of one report and of two reports are the same.
theorem listing_eq_of_forgingFiles :
    (Schema.parse emptyCellsText).result = .ok emptyCells ∧
      (forgingRun "a.csv").fault = none ∧ (forgingRun "a.csv").messages.length = 1 ∧
      ((Message.listing (forgingRun "a.csv").messages).toList.splitOn '\n').length = 2 ∧
      (forgingRun "b.csv").fault = none ∧ (forgingRun "b.csv").messages.length = 2 ∧
      Message.listing (forgingRun "a.csv").messages = Message.listing (forgingRun "b.csv").messages := by
  obtain ⟨hfault, hlisted⟩ := Prod.mk.inj listed_forgingRun_one
  obtain ⟨hfault', hlisted'⟩ := Prod.mk.inj listed_forgingRun_two
  have hcount := congrArg List.length hlisted
  have hcount' := congrArg List.length hlisted'
  rw [List.length_map] at hcount hcount'
  simp only [Message.listing, hlisted, hlisted']
  exact ⟨parse_emptyCellsText, hfault, hcount, by decide, hfault', hcount', by decide⟩

end Engine

end TableSchema
