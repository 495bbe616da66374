import TableSchema.Proofs.Table.LineNumbers

namespace TableSchema

-- A report on a table: on one of its rows, on there being none, or on a place at which
-- its file is ill-formed.
inductive Schema.Reported (schema : Schema) : Message → Prop
  | row {row : Csv.Row} {line : Nat} {message : Message} :
      schema.Reports row line message → Reported schema message
  | noRows : Reported schema emptyMessage
  | flaw (line column : Nat) : Reported schema (Csv.utf8Message line column)

/-! Frames of plain values -/

-- Only an integer can be too long for a text.
def FrameValue.IsShort : FrameValue → Prop
  | .integer value => (toString value.natAbs).length ≤ Number.integerDigitLimit
  | _ => True

theorem FrameValue.exists_cell_eq_ok {value : FrameValue} (h : value.IsShort) :
    ∃ text, value.cell = .ok text := by
  cases value with
  | integer value => exact ⟨_, if_neg (Nat.not_lt.mpr h)⟩
  | _ => exact ⟨_, rfl⟩

theorem FrameValue.exists_label_eq_ok {value : FrameValue} (h : value.IsShort) :
    ∃ text, value.label = .ok text := by
  cases value with
  | missing => exact ⟨_, rfl⟩
  | _ => exact exists_cell_eq_ok h

theorem exists_mapM_eq_ok {α β : Type} {f : α → Except String β} {values : List α}
    (h : ∀ value ∈ values, ∃ result, f value = .ok result) : ∃ results, values.mapM f = .ok results := by
  induction values with
  | nil => exact ⟨[], rfl⟩
  | cons value values ih =>
      obtain ⟨result, hresult⟩ := h value List.mem_cons_self
      obtain ⟨results, hresults⟩ := ih fun value hvalue => h value (List.mem_cons_of_mem _ hvalue)
      exact ⟨result :: results, by rw [List.mapM_cons, hresult, hresults]; rfl⟩

-- A frame of values that have texts can be converted.
theorem Frame.isOk_table_ofColumns {labels : List FrameValue} {columns : List (List FrameValue)}
    (hlabels : ∀ label ∈ labels, label.IsShort)
    (hcells : ∀ column ∈ columns, ∀ value ∈ column, value.IsShort) (hasHeader : Bool) :
    ((ofColumns labels columns).table hasHeader).isOk = true := by
  obtain ⟨header, hheader⟩ :=
    exists_mapM_eq_ok fun label hlabel => FrameValue.exists_label_eq_ok (hlabels label hlabel)
  obtain ⟨texts, htexts⟩ : ∃ texts, columns.mapM (fun column => column.mapM FrameValue.cell) =
      .ok texts :=
    exists_mapM_eq_ok fun column hcolumn =>
      exists_mapM_eq_ok fun value hvalue => FrameValue.exists_cell_eq_ok (hcells column hcolumn value hvalue)
  cases hasHeader <;> simp only [table, ofColumns, hheader, htexts] <;> rfl

namespace Engine

-- A table to check: rows, a file or a frame.
inductive Call
  | rows (files : FileTree) (schema : Schema) (feed : Feed) (display : Option Display)
      (total : Option Int)
  | file (files : FileTree) (schema : Schema) (path encoding : String) (checksUtf8 : Bool)
      (display : Option Display)
  | frame (files : FileTree) (schema : Schema) (frame : Frame) (display : Option Display)

def Call.schema : Call → Schema
  | .rows _ schema .. => schema
  | .file _ schema .. => schema
  | .frame _ schema .. => schema

def perform (engine : Engine) : Call → Run × Engine
  | .rows files schema feed display total => engine.validate files schema feed display total
  | .file files schema path encoding checksUtf8 display =>
    engine.validateFile files schema path encoding checksUtf8 display
  | .frame files schema frame display => engine.validateFrame files schema frame display

-- The runs of some calls one after the other, each with the engine as it is left.
def performAll (engine : Engine) : List Call → List (Run × Engine)
  | [] => []
  | call :: calls => engine.perform call :: (engine.perform call).2.performAll calls

-- The engine behind some calls.
def behind (engine : Engine) (calls : List Call) : Engine :=
  calls.foldl (fun engine call => (engine.perform call).2) engine

-- Whether a call comes to a run. A frame has to be converted before.
def Call.isConverted : Call → Bool
  | .rows .. => true
  | .file .. => true
  | .frame _ schema cells _ => (cells.table schema.hasHeader).isOk

/-! One call -/

-- A call that comes to a run replaces all reports.
theorem perform_snd_of_isConverted (engine : Engine) {call : Call} (h : call.isConverted = true) :
    (engine.perform call).2 = { engine with results := (engine.perform call).1.messages } := by
  cases call with
  | rows => rfl
  | file => simp only [perform, validateFile_eq]
  | frame files schema frame display =>
      simp only [Call.isConverted] at h
      simp only [perform, validateFrame]
      cases htable : frame.table schema.hasHeader with
      | error reason => simp [htable, Except.isOk, Except.toBool] at h
      | ok rows => rfl

-- A call that comes to none changes nothing.
theorem perform_snd_of_not_isConverted (engine : Engine) {call : Call}
    (h : call.isConverted = false) : (engine.perform call).2 = engine := by
  cases call with
  | rows => cases h
  | file => cases h
  | frame files schema frame display =>
      simp only [Call.isConverted] at h
      simp only [perform, validateFrame]
      cases htable : frame.table schema.hasHeader with
      | error reason => rfl
      | ok rows => simp [htable, Except.isOk, Except.toBool] at h

theorem reported_of_rowsRun {engine : Engine} {files : FileTree} {schema : Schema} {feed : Feed}
    {display : Option Display} {total : Option Int} {message : Message}
    (h : message ∈ (engine.rowsRun files schema feed display total).messages) :
    schema.Reported message := by
  rw [messages_rowsRun] at h
  rcases Checker.reports_of_checkFeed h with rfl | ⟨_, _, -, hreports⟩
  · exact .noRows
  · exact .row hreports

theorem reported_of_sourceRun {engine : Engine} {files : FileTree} {schema : Schema}
    {source : Csv.Source} {checksUtf8 : Bool} {display : Option Display} {message : Message}
    (h : message ∈ (engine.sourceRun files schema source checksUtf8 display).messages) :
    schema.Reported message := by
  simp only [sourceRun] at h
  split at h
  · cases h
  · rename_i first others hreports
    rw [Run.messages_reporting] at h
    obtain ⟨line, column, rfl⟩ := exists_utf8Message_of_lineReports hreports message h
    exact .flaw line column
  · split at h
    · cases h
    · exact reported_of_rowsRun h

theorem reported_of_perform {engine : Engine} {call : Call} {message : Message}
    (h : message ∈ (engine.perform call).1.messages) : call.schema.Reported message := by
  cases call with
  | rows => exact reported_of_rowsRun h
  | file =>
      simp only [perform, validateFile_eq, fileRun] at h
      split at h
      · cases h
      · exact reported_of_sourceRun h
  | frame =>
      simp only [perform, validateFrame] at h
      split at h
      · cases h
      · exact reported_of_rowsRun h

/-! Severities -/

theorem isWarning_of_reports {schema : Schema} {row : Csv.Row} {line : Nat} {message : Message}
    (h : schema.Reports row line message) : message.isWarning = !message.isError := by
  cases h with
  | width => rfl
  | @cell column =>
      cases hwarning : column.isWarning with
      | false => simp [Message.isWarning, Message.isError, Cell.message, hwarning]
      | true => simp [Message.isWarning, Message.isError, Cell.message, hwarning]

-- A report on a table is an error or a warning.
theorem isWarning_of_perform {engine : Engine} {call : Call} {message : Message}
    (h : message ∈ (engine.perform call).1.messages) : message.isWarning = !message.isError := by
  cases reported_of_perform h with
  | row hreports => exact isWarning_of_reports hreports
  | noRows => rfl
  | flaw => rfl

/-! Several calls -/

-- Every report that is kept is either an error or a warning.
def IsSorted (engine : Engine) : Prop :=
  ∀ message ∈ engine.results, message.isWarning = !message.isError

theorem IsSorted.perform {engine : Engine} (h : engine.IsSorted) (call : Call) :
    (engine.perform call).2.IsSorted := by
  cases hconverted : call.isConverted with
  | true =>
      rw [engine.perform_snd_of_isConverted hconverted]
      exact fun message hmessage => isWarning_of_perform hmessage
  | false =>
      rw [engine.perform_snd_of_not_isConverted hconverted]
      exact h

theorem IsSorted.behind {engine : Engine} (h : engine.IsSorted) (calls : List Call) :
    (engine.behind calls).IsSorted := by
  induction calls generalizing engine with
  | nil => exact h
  | cons call calls ih => exact ih (h.perform call)

end Engine

end TableSchema
