import TableSchema.Proofs.CommandLine.Switches
import TableSchema.Proofs.Table.Verdict

namespace TableSchema.CommandLine

/-! What a run comes to -/

-- A text of whole lines, the last of which is given.
def EndsInLine (text last : String) : Prop :=
  ∃ lines : List String, text = String.join ((lines ++ [last]).map (· ++ "\n"))

-- The last line tells the verdict, and the code agrees with it.
def Outcome.TellsVerdict (outcome : Outcome) : Prop :=
  (outcome.code.number = 0 ∧ EndsInLine outcome.output "PASS") ∨
    (outcome.code.number = 3 ∧ EndsInLine outcome.output "FAIL")

-- A display shows whole lines.
theorem EndsInLine.behind_notices {text last : String} (h : EndsInLine text last)
    (notices : List Notice) : EndsInLine (Notice.text notices ++ text) last := by
  obtain ⟨lines, rfl⟩ := h
  refine ⟨notices.map Notice.line ++ lines, ?_⟩
  simp [Notice.text, Function.comp_def]

theorem code_resultOutcome (messages : List Message) :
    (resultOutcome messages).code = verdict messages := by
  simp only [resultOutcome]
  split <;> rfl

theorem output_resultOutcome (messages : List Message) :
    EndsInLine (resultOutcome messages).output (verdict messages).word := by
  have hword : (verdict messages).word.isEmpty = false := by
    cases verdict messages <;> decide
  cases hempty : messages.isEmpty with
  | true =>
      refine ⟨[], ?_⟩
      simp [resultOutcome, hempty, printed, hword]
  | false =>
      refine ⟨[Message.listing messages], ?_⟩
      simp [resultOutcome, hempty, printed, String.append_assoc]

-- A run that comes to an outcome has left no rule without an answer, since nothing is said about
-- that fault. It passes with the one code and fails with the other.
theorem outcome_of_runOutcome {run : Run} {outcome : Outcome} (h : runOutcome run = .ok outcome) :
    run.IsDecided ∧ outcome.code = (if run.passes then .valid else .invalid) ∧
      EndsInLine outcome.output outcome.code.word := by
  cases hfault : run.fault with
  | none =>
      have hmessages : run.outcome = .ok run.messages := Run.outcome_of_fault_eq_none hfault
      simp only [runOutcome, hmessages] at h
      obtain rfl := Except.ok.inj h
      refine ⟨?_, ?_, ?_⟩
      · intro reason hreason
        rw [hfault] at hreason
        cases hreason
      · simp only [code_resultOutcome, verdict, Run.passes, hfault]
        cases Message.containsError run.messages <;> rfl
      · simp only [code_resultOutcome]
        exact (output_resultOutcome run.messages).behind_notices run.shown
  | some fault =>
      have houtcome : run.outcome = .error fault := by simp only [Run.outcome, hfault]
      simp only [runOutcome, houtcome] at h
      cases htext : RunFault.text? fault with
      | none =>
          simp only [htext] at h
          cases h
      | some text =>
          simp only [htext] at h
          obtain rfl := Except.ok.inj h
          refine ⟨?_, ?_, ?_⟩
          · intro reason hreason
            rw [hfault] at hreason
            obtain rfl := Option.some.inj hreason
            cases htext
          · simp [Run.passes, hfault]
          · have hlines : EndsInLine ("Error:   " ++ text ++ "\nFAIL\n") "FAIL" :=
              ⟨["Error:   " ++ text], by simp [String.append_assoc]⟩
            have hshown := hlines.behind_notices run.shown
            simp only [← String.append_assoc] at hshown
            exact hshown

/-! What is checked -/

-- A table to check, what it is checked against, and how.
structure Plan where
  arguments : Arguments
  settings : Settings
  csvPath : String
  schemaPath : String
  schema : Schema

namespace Plan

def engine (plan : Plan) : Engine where
  failFast := (plan.arguments.override plan.settings).failFast
  resolver := {
    substitutions := plan.arguments.substitutions
    caseSensitive := (plan.arguments.override plan.settings).caseSensitivePaths }

def run (files : FileTree) (plan : Plan) : Run :=
  let settings := plan.arguments.override plan.settings
  plan.engine.fileRun files plan.schema plan.csvPath settings.csvEncoding
    (!settings.disableUtf8Validation)
    (if plan.arguments.showProgress then some Display.silent else none)

-- A command line comes to a plan if it and its settings can be read, both of its files are there,
-- and one of them holds a schema.
structure IsOf (files : FileTree) (environment : Environment) (texts : List String) (plan : Plan) :
    Prop where
  arguments_eq : Arguments.ofTexts texts = .ok plan.arguments
  settings_eq : Settings.load files environment plan.arguments.envFile = .ok plan.settings
  csvPath_eq : plan.arguments.csvPath = some plan.csvPath
  schemaPath_eq : plan.arguments.schemaPath = some plan.schemaPath
  csv_isReadable : isReadable files plan.csvPath = .ok true
  schema_isReadable : isReadable files plan.schemaPath = .ok true
  schema_eq : Schema.ofFile files plan.schemaPath
    (plan.arguments.override plan.settings).schemaEncoding = .ok plan.schema

def turnedOn (switches : List Switch) (plan : Plan) : Plan :=
  { plan with arguments := plan.arguments.turnedOn switches }

section

variable {files : FileTree} {environment : Environment} {texts : List String} {plan : Plan}

theorem run_eq_runOutcome (h : plan.IsOf files environment texts) :
    CommandLine.run files environment texts = runOutcome (plan.run files) := by
  have hvalidate : validate files plan.csvPath plan.schemaPath
      (plan.arguments.override plan.settings) plan.arguments.substitutions
      (if plan.arguments.showProgress then some Display.silent else none) =
        runOutcome (plan.run files) := by
    unfold validate
    rw [h.schema_eq]
    simp only [Plan.run, Plan.engine, Engine.validateFile_eq]
  simp only [CommandLine.run, h.arguments_eq, h.settings_eq, runWith, h.csvPath_eq, h.schemaPath_eq]
  rw [h.csv_isReadable, h.schema_isReadable, hvalidate]
  rfl

-- Switches in front of a command line change neither the table nor the schema.
theorem IsOf.turnedOn (h : plan.IsOf files environment texts) (switches : List Switch) :
    (plan.turnedOn switches).IsOf files environment (switches.map Switch.text ++ texts) where
  arguments_eq := by
    rw [Arguments.ofTexts_switches, h.arguments_eq]
    rfl
  settings_eq := h.settings_eq
  csvPath_eq := h.csvPath_eq
  schemaPath_eq := h.schemaPath_eq
  csv_isReadable := h.csv_isReadable
  schema_isReadable := h.schema_isReadable
  schema_eq := h.schema_eq

-- They may change where a run stops and who watches it.
theorem passes_turnedOn (switches : List Switch) (hdecided : (plan.run files).IsDecided)
    (hdecided' : ((plan.turnedOn switches).run files).IsDecided) :
    ((plan.turnedOn switches).run files).passes = (plan.run files).passes := by
  have hrun : (plan.turnedOn switches).run files =
      (plan.turnedOn switches).engine.fileRun files plan.schema plan.csvPath
        (plan.arguments.override plan.settings).csvEncoding
        (!(plan.arguments.override plan.settings).disableUtf8Validation)
        (if (plan.turnedOn switches).arguments.showProgress then some Display.silent else none) := by
    rfl
  have hresolver : (plan.turnedOn switches).engine.resolver = plan.engine.resolver := by rfl
  rw [hrun] at hdecided' ⊢
  exact Engine.passes_fileRun_eq hresolver hdecided' hdecided

end

end Plan

-- Whether a command line comes to the check of a table.
def ReachesTable (files : FileTree) (environment : Environment) (texts : List String) : Prop :=
  ∃ plan : Plan, plan.IsOf files environment texts

theorem tellsVerdict_of_isOf {files : FileTree} {environment : Environment} {texts : List String}
    {plan : Plan} (h : plan.IsOf files environment texts) {outcome : Outcome}
    (houtcome : run files environment texts = .ok outcome) : outcome.TellsVerdict := by
  rw [Plan.run_eq_runOutcome h] at houtcome
  obtain ⟨-, hcode, hline⟩ := outcome_of_runOutcome houtcome
  cases hpasses : (plan.run files).passes with
  | true =>
      simp only [hpasses, if_true] at hcode
      rw [hcode] at hline
      exact .inl ⟨by rw [hcode]; rfl, hline⟩
  | false =>
      simp only [hpasses, Bool.false_eq_true, if_false] at hcode
      rw [hcode] at hline
      exact .inr ⟨by rw [hcode]; rfl, hline⟩

-- Where a table comes to be checked, switches in front of the command line do not change the code
-- with which it ends, unless one of the two ends without any. The code is that of the verdict in
-- the last line.
theorem exitCode_eq_of_switches {files : FileTree} {environment : Environment}
    {texts : List String} (hreaches : ReachesTable files environment texts)
    (switches : List Switch) :
    let switched := switches.map Switch.text ++ texts
    ReachesTable files environment switched ∧
      (∀ outcome, run files environment texts = .ok outcome → outcome.TellsVerdict) ∧
      ∀ outcome', run files environment switched = .ok outcome' → outcome'.TellsVerdict ∧
        ∀ outcome, run files environment texts = .ok outcome →
          outcome'.code.number = outcome.code.number := by
  intro switched
  obtain ⟨plan, hplan⟩ := hreaches
  have hswitched := hplan.turnedOn switches
  refine ⟨⟨_, hswitched⟩, fun outcome => tellsVerdict_of_isOf hplan, fun outcome' houtcome' =>
    ⟨tellsVerdict_of_isOf hswitched houtcome', fun outcome houtcome => ?_⟩⟩
  rw [Plan.run_eq_runOutcome hplan] at houtcome
  rw [Plan.run_eq_runOutcome hswitched] at houtcome'
  obtain ⟨hdecided, hcode, -⟩ := outcome_of_runOutcome houtcome
  obtain ⟨hdecided', hcode', -⟩ := outcome_of_runOutcome houtcome'
  rw [hcode, hcode', Plan.passes_turnedOn switches hdecided hdecided']

-- A table without an empty cell, and a schema that wants nothing but empty cells.
def untidySchemaText : String :=
  "@TotalColumns 1 @noHeader\nA: empty"

def untidyFiles : FileTree where
  entries := [(["a.csv"], .file (Text.Utf8.encode "x\ny\n".toList)),
    (["a.csvs"], .file (Text.Utf8.encode untidySchemaText.toList))]
  workingDirectory := []

theorem reachesTable_of_untidyFiles : ReachesTable untidyFiles ⟨[]⟩ ["a.csv", "a.csvs"] := by
  have harguments : Arguments.ofTexts ["a.csv", "a.csvs"] =
      .ok { csvPath := some "a.csv", schemaPath := some "a.csvs" } := by decide +kernel
  have hsettings : Settings.load untidyFiles ⟨[]⟩ none = .ok {} := by decide +kernel
  have hcsv : isReadable untidyFiles "a.csv" = .ok true := by decide +kernel
  have hcsvs : isReadable untidyFiles "a.csvs" = .ok true := by decide +kernel
  have hok : (Schema.ofFile untidyFiles "a.csvs" "utf-8").isOk = true := by decide +kernel
  cases hschema : Schema.ofFile untidyFiles "a.csvs" "utf-8" with
  | error fault =>
      rw [hschema] at hok
      cases hok
  | ok schema =>
      exact ⟨⟨_, {}, "a.csv", "a.csvs", schema⟩,
        ⟨harguments, hsettings, rfl, rfl, hcsv, hcsvs, hschema⟩⟩

-- The switches show how far the check is, and stop it behind the first row.
theorem exitCode_eq_of_switches_of_untidyFiles :
    let bare := run untidyFiles ⟨[]⟩ ["a.csv", "a.csvs"]
    let switched := run untidyFiles ⟨[]⟩
      (["--fail-fast", "--show-progress", "--trace-parser"] ++ ["a.csv", "a.csvs"])
    ReachesTable untidyFiles ⟨[]⟩ ["a.csv", "a.csvs"] ∧
      bare.map Outcome.output = .ok ("Error:   empty fails for line: 1, column: A, value: \"x\"\n" ++
        "Error:   empty fails for line: 2, column: A, value: \"y\"\nFAIL\n") ∧
      switched.map Outcome.output = .ok ("processing 1 of 2\n50%\n" ++
        "Error:   empty fails for line: 1, column: A, value: \"x\"\nFAIL\n") ∧
      ∀ outcome outcome', bare = .ok outcome → switched = .ok outcome' →
        outcome.TellsVerdict ∧ outcome'.TellsVerdict ∧ outcome'.code.number = outcome.code.number := by
  intro bare switched
  have hreaches := reachesTable_of_untidyFiles
  obtain ⟨-, htells, hswitched⟩ :=
    exitCode_eq_of_switches hreaches [.failFast, .showProgress, .traceParser]
  refine ⟨hreaches, by decide +kernel, by decide +kernel, ?_⟩
  intro outcome outcome' houtcome houtcome'
  obtain ⟨htells', hcode⟩ := hswitched outcome' houtcome'
  exact ⟨htells outcome houtcome, htells', hcode outcome houtcome⟩

end TableSchema.CommandLine
