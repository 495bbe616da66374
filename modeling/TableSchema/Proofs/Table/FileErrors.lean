import TableSchema.Proofs.Csv.LineReports
import TableSchema.Proofs.Table.Verdict

namespace TableSchema

namespace Message

-- There is no more than one error, and nothing behind it.
structure EndsAtFirstError (messages : List Message) : Prop where
  single : messages.countP isError ≤ 1
  last : ∀ message ∈ messages, message.isError = true → messages.getLast? = some message

instance (messages : List Message) : Decidable (EndsAtFirstError messages) :=
  decidable_of_iff (messages.countP isError ≤ 1 ∧
      ∀ message ∈ messages, message.isError = true → messages.getLast? = some message)
    ⟨fun h => ⟨h.1, h.2⟩, fun h => ⟨h.single, h.last⟩⟩

theorem endsAtFirstError_throughFirstError (messages : List Message) :
    EndsAtFirstError (throughFirstError messages) := by
  induction messages with
  | nil => exact ⟨Nat.zero_le _, nofun⟩
  | cons message rest ih =>
      by_cases h : message.isError = true
      · rw [throughFirstError, if_pos h]
        refine ⟨List.countP_le_length, fun other hm _ => ?_⟩
        obtain rfl := List.mem_singleton.mp hm
        rfl
      · rw [throughFirstError, if_neg h]
        constructor
        · rw [List.countP_cons_of_neg h]
          exact ih.single
        · intro other hm herror
          rcases List.mem_cons.mp hm with rfl | hm
          · exact absurd herror h
          · rw [List.getLast?_cons, ih.last other hm herror, Option.getD_some]

-- Among errors only, the first one is the last one if there are no others.
theorem endsAtFirstError_iff_of_all {messages : List Message}
    (h : ∀ message ∈ messages, message.isError = true) :
    EndsAtFirstError messages ↔ messages.length ≤ 1 := by
  have hcount : messages.countP isError = messages.length := List.countP_eq_length.mpr h
  constructor
  · intro hends
    have hsingle := hends.single
    rwa [hcount] at hsingle
  · intro hle
    refine ⟨hcount.trans_le hle, fun message hm _ => ?_⟩
    obtain ⟨only, rfl⟩ := List.length_eq_one_iff.mp
      (Nat.le_antisymm hle (List.length_pos_of_mem hm))
    obtain rfl := List.mem_singleton.mp hm
    rfl

end Message

namespace Csv

open TableSchema.Text.Utf8

-- How many lines between line feeds are ill-formed.
def flawedLines (content : List UInt8) : Nat :=
  (content.splitOn 0x0A).countP fun line => ¬WellFormed line

theorem length_utf8Messages (content : List UInt8) :
    (utf8Messages content).length = flawedLines content := by
  rw [utf8Messages_eq_map, List.length_map, ← List.countP_eq_length_filter, flawedLines]
  have hpieces : ((content.splitOn 0x0A).zipIdx 1).map Prod.fst = content.splitOn 0x0A :=
    List.zipIdx_map_fst 1 _
  conv_rhs => rw [← hpieces, List.countP_map]
  rfl

end Csv

namespace Run

theorem messages_of_outcome {run : Run} {messages : List Message}
    (h : run.outcome = .ok messages) : run.messages = messages := by
  simp only [outcome] at h
  split at h
  · cases h
  · exact Except.ok.inj h

end Run

namespace Engine

variable {files : FileTree} {schema : Schema} {path encoding : String} {checksUtf8 : Bool}
  {display : Option Display}

-- Rows are checked up to the first error.
theorem endsAtFirstError_rowsRun {engine : Engine} (hfast : engine.failFast = true)
    (feed : Feed) (display : Option Display) (total : Option Int) :
    Message.EndsAtFirstError (engine.rowsRun files schema feed display total).messages := by
  rw [messages_rowsRun, checkFeed_eq_stoppedAtError, if_pos hfast, Check.messages_stoppedAtError]
  exact Message.endsAtFirstError_throughFirstError _

theorem two_le_length_of_lineReports {source : Csv.Source} {messages : List Message}
    (h : lineReports source checksUtf8 = .ok messages) :
    2 ≤ messages.length ↔
      checksUtf8 = true ∧ source.isUtf8 = .ok true ∧ 2 ≤ Csv.flawedLines source.content := by
  rcases lineReports_cases h with ⟨rfl, hunchecked⟩ | ⟨rfl, hchecked, hutf8⟩
  · exact iff_of_false (by simp) fun hall => hunchecked ⟨hall.1, hall.2.1⟩
  · rw [Csv.length_utf8Messages]
    exact ⟨fun htwo => ⟨hchecked, hutf8, htwo⟩, fun hall => hall.2.2⟩

-- A run that stops at the first error returns no more than one, which is the last message,
-- unless its file is checked for ill-formed lines and has several: all of these are reported.
theorem failFast_file_endsAtFirstError_iff (engine : Engine) {messages : List Message}
    (h : ({ engine with failFast := true }.validateFile files schema path encoding checksUtf8
      display).1.outcome = .ok messages) :
    Message.EndsAtFirstError messages ↔
      ¬∃ source, Csv.Source.ofPath files path encoding "," = .ok source ∧ checksUtf8 = true ∧
        source.isUtf8 = .ok true ∧ 2 ≤ Csv.flawedLines source.content := by
  rw [validateFile_eq] at h
  cases hsource : Csv.Source.ofPath files path encoding "," with
  | error fault =>
      simp only [fileRun, hsource] at h
      cases h
  | ok source =>
      simp only [Except.ok.injEq, exists_eq_left']
      simp only [fileRun, hsource, sourceRun] at h
      cases hreports : lineReports source checksUtf8 with
      | error fault =>
          simp only [hreports] at h
          cases h
      | ok reports =>
          rw [← two_le_length_of_lineReports hreports]
          cases reports with
          | cons report reports =>
              simp only [hreports] at h
              have hmessages := Run.messages_of_outcome h
              rw [Run.messages_reporting] at hmessages
              subst hmessages
              rw [Message.endsAtFirstError_iff_of_all (isError_of_lineReports hreports), not_le,
                Nat.lt_succ_iff]
          | nil =>
              refine iff_of_true ?_ (by simp)
              simp only [hreports] at h
              cases htotal : fileTotal source display with
              | error fault =>
                  simp only [htotal] at h
                  cases h
              | ok total =>
                  simp only [htotal] at h
                  rw [← Run.messages_of_outcome h]
                  exact endsAtFirstError_rowsRun rfl _ _ _

-- A file with two ill-formed lines.
def twiceFlawedFiles : FileTree where
  entries := [(["a.csv"], .file [0xFF, 0x0A, 0xFF, 0x0A])]
  workingDirectory := []

def plainColumn : Schema where
  hasHeader := false
  permitEmpty := false
  columns := [{ name := "A", rules := [], directives := [] }]

theorem outcome_of_twiceFlawedFiles :
    ({ failFast := true : Engine }.validateFile twiceFlawedFiles plainColumn "a.csv" "utf-8" true
      none).1.outcome = .ok [Csv.utf8Message 1 1, Csv.utf8Message 2 1] := by
  decide +kernel

-- Both lines are reported, although the run is to stop at the first error.
theorem failFast_file_not_endsAtFirstError_of_twiceFlawedFiles :
    ∃ messages, ({ failFast := true : Engine }.validateFile twiceFlawedFiles plainColumn "a.csv"
      "utf-8" true none).1.outcome = .ok messages ∧ ¬Message.EndsAtFirstError messages :=
  ⟨_, outcome_of_twiceFlawedFiles, by decide⟩

theorem failFast_file_endsAtFirstError_iff_of_twiceFlawedFiles :
    let messages := [Csv.utf8Message 1 1, Csv.utf8Message 2 1]
    let checksUtf8 := true
    ({ failFast := true : Engine }.validateFile twiceFlawedFiles plainColumn "a.csv" "utf-8"
        checksUtf8 none).1.outcome = .ok messages ∧
      (Message.EndsAtFirstError messages ↔
        ¬∃ source, Csv.Source.ofPath twiceFlawedFiles "a.csv" "utf-8" "," = .ok source ∧
          checksUtf8 = true ∧ source.isUtf8 = .ok true ∧
          2 ≤ Csv.flawedLines source.content) := by
  intro messages checksUtf8
  exact ⟨outcome_of_twiceFlawedFiles,
    failFast_file_endsAtFirstError_iff {} outcome_of_twiceFlawedFiles⟩

end Engine

end TableSchema
