import TableSchema.Proofs.CommandLine.Presets
import TableSchema.Proofs.Settings.Sources

namespace TableSchema.Settings.Setting

open CommandLine

/-! The option of a setting -/

def flag : Setting → Flag
  | .switch .failFast => .failFast
  | .switch .traceParser => .traceParser
  | .switch .caseSensitivePaths => .caseSensitivePaths
  | .switch .disableUtf8Validation => .disableUtf8Validation
  | .encoding .csv _ => .csvEncoding
  | .encoding .schema _ => .schemaEncoding

def flagText : Setting → String
  | .switch .failFast => "--fail-fast"
  | .switch .traceParser => "--trace-parser"
  | .switch .caseSensitivePaths => "--case-sensitive-paths"
  | .switch .disableUtf8Validation => "--disable-utf8-validation"
  | .encoding .csv _ => "--csv-encoding"
  | .encoding .schema _ => "--csv-schema-encoding"

def arguments : Setting → List String
  | .switch _ => []
  | .encoding _ name => [name]

def texts (setting : Setting) : List String :=
  setting.flagText :: setting.arguments

def words (setting : Setting) : List Word :=
  .flag (plainSpelling setting.flag) :: setting.arguments.map .argument

-- What the option asks for. A later option has the last word about an encoding.
def request (setting : Setting) (requests : Requests) : Requests :=
  match setting with
  | .switch .failFast => { requests with failFast := true }
  | .switch .traceParser => { requests with traceParser := true }
  | .switch .caseSensitivePaths => { requests with caseSensitivePaths := true }
  | .switch .disableUtf8Validation => { requests with disableUtf8Validation := true }
  | .encoding .csv name => { requests with csvEncoding := requests.csvEncoding.or (some name) }
  | .encoding .schema name =>
    { requests with schemaEncoding := requests.schemaEncoding.or (some name) }

-- An encoding that can be named behind its option.
def IsOption (setting : Setting) : Prop :=
  setting.IsKnown ∧ ∀ argument ∈ setting.arguments, argument.toList.head? ≠ some '-'

-- No flag looks at what the option asks for.
theorem isPreset_request (setting : Setting) : Requests.IsPreset setting.request := by
  refine Requests.isPreset_of_asks ?_
  rintro ask hask requests
  cases hask <;> rcases setting with (_ | _ | _ | _) | ⟨_ | _, _⟩ <;> simp [request]

theorem ofText_flagText (setting : Setting) :
    setting.flagText ≠ separator ∧
      Word.ofText setting.flagText = .ok (.flag (plainSpelling setting.flag)) := by
  rcases setting with key | ⟨kind, name⟩
  · cases key <;> exact ⟨by decide, rfl⟩
  · cases kind <;> simp only [flagText, flag] <;> exact ⟨by decide, rfl⟩

theorem ofText_of_head?_ne {text : String} (h : text.toList.head? ≠ some '-') :
    text ≠ separator ∧ Word.ofText text = .ok (.argument text) := by
  constructor
  · rintro rfl
    exact h rfl
  · rw [Word.ofText]
    split
    · rename_i heq
      rw [heq] at h
      exact absurd rfl h
    · rfl

-- The option with its argument, in front of any line.
theorem presets {setting : Setting} (h : setting.IsOption) :
    Presets setting.texts setting.words setting.request where
  isPreset := setting.isPreset_request
  line_eq := by
    refine Line.ofTexts_append (.cons setting.ofText_flagText ?_)
    rw [List.forall₂_map_right_iff, List.forall₂_same]
    exact fun argument hm => ofText_of_head?_ne (h.2 argument hm)
  read_eq := by
    intro rest
    rcases setting with key | ⟨kind, name⟩
    · have harity : (Setting.switch key).flag.arity = .none := by cases key <;> rfl
      have hadd : Draft.addFlag {} (Setting.switch key).flag [] =
          .ok (Draft.changed (Setting.switch key).request {}) := by cases key <;> rfl
      rw [words, arguments, List.map_nil, List.singleton_append, Draft.read_plain harity, hadd]
      rfl
    · have harity : (Setting.encoding kind name).flag.arity = .one := by cases kind <;> rfl
      have hname : encodingRequest name = .ok name := if_pos h.1
      have hadd : Draft.addFlag {} (Setting.encoding kind name).flag [name] =
          .ok (Draft.changed (Setting.encoding kind name).request {}) := by
        cases kind <;> simp only [Draft.addFlag, flag, Requests.add, hname] <;> rfl
      rw [words, arguments, List.map_singleton, List.cons_append, List.singleton_append,
        Draft.read_plain_argument harity, hadd]
      rfl

-- It does not matter whether the option or the variable asks for the setting.
theorem override_request (setting : Setting) (requests : Requests) (settings : Settings) :
    (setting.request requests).override settings = requests.override (setting.apply settings) := by
  rcases setting with (_ | _ | _ | _) | ⟨_ | _, name⟩
  case encoding.csv =>
      cases hname : requests.csvEncoding <;>
        simp [request, Requests.override, apply, FileKind.set, hname]
  case encoding.schema =>
      cases hname : requests.schemaEncoding <;>
        simp [request, Requests.override, apply, FileKind.set, hname]
  all_goals simp [request, Requests.override, apply, Switch.set]

theorem runWith_changed (setting : Setting) (files : FileTree) (settings : Settings)
    (arguments : Arguments) :
    runWith files settings (arguments.changed setting.request) =
      runWith files (setting.apply settings) arguments := by
  have hkept : (setting.request arguments.toRequests).substitutions = arguments.substitutions ∧
      (setting.request arguments.toRequests).showProgress = arguments.showProgress := by
    rcases setting with (_ | _ | _ | _) | ⟨_ | _, _⟩ <;> exact ⟨rfl, rfl⟩
  simp only [runWith, Arguments.changed, override_request, hkept.1, hkept.2]

end TableSchema.Settings.Setting

namespace TableSchema.CommandLine

open Settings

-- An option and the variable of its setting are the same thing, in front of any command line.
theorem run_option_eq_run_put {setting : Setting} (hoption : setting.IsOption) {files : FileTree}
    {environment : Environment} {texts : List String}
    (hsettled : ∀ arguments text, Arguments.ofTexts texts = .ok arguments →
      fileText files environment (filePath arguments.envFile) = .ok text →
        setting.IsSettled environment (EnvFile.bindings text.toList)) :
    run files environment (setting.texts ++ texts) =
      run files (environment.put setting.variableName setting.value) texts := by
  rw [run, run, (Setting.presets hoption).ofTexts_eq]
  cases harguments : Arguments.ofTexts texts with
  | error exit => rfl
  | ok arguments =>
      have henvFile : (arguments.changed setting.request).envFile = arguments.envFile := by
        rcases setting with (_ | _ | _ | _) | ⟨_ | _, _⟩ <;> rfl
      have hload := Setting.load_put hoption.1 fun text => hsettled arguments text harguments
      simp only [Except.map, henvFile, hload]
      cases load files environment arguments.envFile with
      | error fault => rfl
      | ok settings => exact setting.runWith_changed files settings arguments

-- A table with a letter that is no text in the character set that the file of settings names.
def accentedFiles : FileTree where
  entries := [(["a.csv"], .file [0xE9, 0x0A]),
    (["a.csvs"], .file (Text.Utf8.encode "@TotalColumns 1 @noHeader\nA: is(\"\u00E9\")".toList)),
    ([".env"], .file (Text.Utf8.encode "CSV_VALIDATOR_CSV_ENCODING=utf-8\n".toList))]
  workingDirectory := []

theorem run_option_eq_run_put_of_accentedFiles :
    let setting := Setting.encoding .csv "latin-1"
    let texts := ["a.csv", "a.csvs"]
    setting.IsOption ∧
      run accentedFiles ⟨[]⟩ (["--csv-encoding", "latin-1"] ++ texts) =
        run accentedFiles ⟨[("CSV_VALIDATOR_CSV_ENCODING", "latin-1")]⟩ texts ∧
      (run accentedFiles ⟨[("CSV_VALIDATOR_CSV_ENCODING", "latin-1")]⟩ texts).map Outcome.output =
        .ok "PASS\n" ∧
      (run accentedFiles ⟨[]⟩ texts).map Outcome.output ≠ .ok "PASS\n" := by
  intro setting texts
  have hoption : setting.IsOption := by
    have hcharset : Encoding.Charset.ofName? "latin-1" = some .latin1 := by decide +kernel
    exact ⟨Encoding.isCharsetName_of_charset hcharset, by decide⟩
  have harguments : Arguments.ofTexts texts =
      .ok { csvPath := some "a.csv", schemaPath := some "a.csvs" } := by decide +kernel
  have htext : fileText accentedFiles ⟨[]⟩ (filePath none) =
      .ok "CSV_VALIDATOR_CSV_ENCODING=utf-8\n" := by decide +kernel
  have hbindings : EnvFile.bindings "CSV_VALIDATOR_CSV_ENCODING=utf-8\n".toList =
      [⟨"CSV_VALIDATOR_CSV_ENCODING", some "utf-8"⟩] := by decide +kernel
  have hsettled : setting.IsSettled ⟨[]⟩ [⟨"CSV_VALIDATOR_CSV_ENCODING", some "utf-8"⟩] := by
    constructor
    · intro value hvalue
      have hvalues : EnvFile.valuesOf ⟨[]⟩ [⟨"CSV_VALIDATOR_CSV_ENCODING", some "utf-8"⟩] =
          [("CSV_VALIDATOR_CSV_ENCODING", some "utf-8")] := by decide +kernel
      rw [hvalues] at hvalue
      obtain rfl : "utf-8" = value := Option.some.inj hvalue
      have hcharset : Encoding.Charset.ofName? "utf-8" = some .utf8 := by decide +kernel
      exact ⟨Encoding.isCharsetName_of_charset hcharset, by decide⟩
    · intro binding hm
      obtain rfl := List.mem_singleton.mp hm
      have hnone : EnvFile.referencesFrom 0 "utf-8".toList = [] := by decide +kernel
      rintro ⟨reference, hreference, -⟩
      rw [Option.getD_some, hnone] at hreference
      cases hreference
  refine ⟨hoption, run_option_eq_run_put hoption ?_, by decide +kernel, by decide +kernel⟩
  intro arguments text ha ht
  obtain rfl := Except.ok.inj (harguments.symm.trans ha)
  obtain rfl := Except.ok.inj (htext.symm.trans ht)
  rw [hbindings]
  exact hsettled

end TableSchema.CommandLine
