import TableSchema.Proofs.Settings.Variables
import TableSchema.Settings

namespace TableSchema.Settings

open Environment

/-! What settings are read from -/

-- A variable that settings are read from.
inductive Source
  | switch (key : Switch)
  | encoding (kind : FileKind)
  | logLevel
  deriving DecidableEq

namespace Source

def variableName : Source → String
  | .switch key => key.variableName
  | .encoding kind => kind.variableName
  | .logLevel => logLevelVariable

def read (environment : Environment) (settings : Settings) : Source → Except Fault Settings
  | .switch key => readSwitch environment settings key
  | .encoding kind => readEncoding environment settings kind
  | .logLevel => readLogLevel environment settings

def all : List Source :=
  [.switch .failFast, .switch .traceParser, .switch .caseSensitivePaths,
    .switch .disableUtf8Validation, .encoding .csv, .encoding .schema, .logLevel]

theorem map_variableName_all : all.map variableName = variableNames := by
  rfl

theorem mem_all (source : Source) : source ∈ all := by
  rcases source with key | kind | _
  · cases key <;> decide
  · cases kind <;> decide
  · decide

theorem variableName_mem (source : Source) : source.variableName ∈ variableNames := by
  rw [← map_variableName_all]
  exact List.mem_map_of_mem source.mem_all

theorem variableName_injective {source other : Source}
    (h : source.variableName = other.variableName) : source = other := by
  have hnodup : (all.map variableName).Nodup := by decide
  exact List.inj_on_of_nodup_map hnodup source.mem_all other.mem_all h

end Source

-- The settings of an environment are read from one variable after the other.
theorem ofEnvironment_eq_foldlM (environment : Environment) :
    ofEnvironment environment = Source.all.foldlM (Source.read environment) {} := by
  simp only [Source.all, List.foldlM_cons, List.foldlM_nil, bind_pure]
  rfl

/-! One setting -/

-- A setting that an option has too: a switch that is on, or an encoding.
inductive Setting
  | switch (key : Switch)
  | encoding (kind : FileKind) (name : String)
  deriving DecidableEq

namespace Setting

def source : Setting → Source
  | .switch key => .switch key
  | .encoding kind _ => .encoding kind

def variableName (setting : Setting) : String :=
  setting.source.variableName

-- What the variable is set to.
def value : Setting → String
  | .switch _ => "true"
  | .encoding _ name => name

-- What the setting comes to, whatever was set before.
def apply (setting : Setting) (settings : Settings) : Settings :=
  match setting with
  | .switch key => key.set settings true
  | .encoding kind name => kind.set settings name

-- Whether settings can be read from a value of the variable. No variable holds a null
-- character.
structure Accepts (setting : Setting) (value : String) : Prop where
  meaning : match setting with
    | .switch _ => (booleanOf? value).isSome = true
    | .encoding _ _ => Encoding.isCharsetName value = true
  null_free : '\x00' ∉ value.toList

theorem isDefinable_of_accepts {setting : Setting} {value : String} (h : setting.Accepts value) :
    EnvFile.IsDefinable setting.variableName value := by
  have hnames : ∀ name ∈ variableNames, '=' ∉ name.toList ∧ '\x00' ∉ name.toList := by decide
  obtain ⟨hlegal, hfree⟩ := hnames _ (Source.variableName_mem setting.source)
  exact ⟨hlegal, hfree, h.null_free⟩

-- A setting can be read from its own value.
def IsKnown : Setting → Prop
  | .switch _ => True
  | .encoding _ name => Encoding.isCharsetName name = true

variable {setting : Setting} {first second : Environment}

-- What another variable sets does not meet the setting.
theorem setSwitch_apply_of_ne {key : Switch} (h : setting.source ≠ .switch key)
    (settings : Settings) (on : Bool) :
    key.set (setting.apply settings) on = setting.apply (key.set settings on) := by
  rcases setting with own | ⟨kind, name⟩
  · cases own <;> cases key <;> first | rfl | exact absurd rfl h
  · cases kind <;> cases key <;> rfl

theorem setEncoding_apply_of_ne {kind : FileKind} (h : setting.source ≠ .encoding kind)
    (settings : Settings) (name : String) :
    kind.set (setting.apply settings) name = setting.apply (kind.set settings name) := by
  rcases setting with own | ⟨other, name⟩
  · cases own <;> cases kind <;> rfl
  · cases other <;> cases kind <;> first | rfl | exact absurd rfl h

theorem setLogLevel_apply (setting : Setting) (settings : Settings) (level : String) :
    { setting.apply settings with logLevel := level } =
      setting.apply { settings with logLevel := level } := by
  rcases setting with own | ⟨kind, name⟩
  · cases own <;> rfl
  · cases kind <;> rfl

-- What is read from another variable does not depend on the setting.
theorem read_apply_of_ne {source : Source} (h : setting.source ≠ source)
    (environment : Environment) (settings : Settings) :
    source.read environment (setting.apply settings) =
      (source.read environment settings).map setting.apply := by
  cases source with
  | switch key =>
      simp only [Source.read, readSwitch]
      cases environment.get? key.variableName with
      | none => rfl
      | some value =>
          cases hmeaning : booleanOf? value with
          | none =>
              simp only [hmeaning]
              rfl
          | some on => simp only [hmeaning, Except.map, setSwitch_apply_of_ne h]
  | encoding kind =>
      simp only [Source.read, readEncoding]
      cases environment.get? kind.variableName with
      | none => rfl
      | some value =>
          by_cases hmeaning : Encoding.isCharsetName value = true
          · simp only [if_pos hmeaning, Except.map, setEncoding_apply_of_ne h]
          · simp only [if_neg hmeaning]
            rfl
  | logLevel =>
      simp only [Source.read, readLogLevel]
      cases environment.get? logLevelVariable with
      | none => rfl
      | some value =>
          by_cases hempty : value.isEmpty = true
          · simp only [if_pos hempty, Except.map, setLogLevel_apply]
          · simp only [if_neg hempty]
            cases Log.Level.named value with
            | error fault => rfl
            | ok level => simp only [Except.map, setLogLevel_apply]

theorem read_eq_of_ne (hput : IsPut setting.variableName setting.value first second)
    {source : Source} (h : setting.source ≠ source) (settings : Settings) :
    source.read second settings = source.read first settings := by
  have hname : source.variableName ≠ setting.variableName := fun hname =>
    h (Source.variableName_injective hname).symm
  have hget := hput.others _ hname
  cases source with
  | switch key =>
      simp only [Source.variableName] at hget
      simp only [Source.read, readSwitch, hget]
  | encoding kind =>
      simp only [Source.variableName] at hget
      simp only [Source.read, readEncoding, hget]
  | logLevel =>
      simp only [Source.variableName] at hget
      simp only [Source.read, readLogLevel, hget]

-- Its own variable gives the setting in the one environment, and something that the setting
-- overrides in the other.
theorem read_source (hknown : setting.IsKnown)
    (hput : EnvFile.IsPutOver setting.Accepts setting.variableName setting.value first second)
    (settings : Settings) :
    setting.source.read second settings =
      (setting.source.read first settings).map setting.apply := by
  have hvalue := hput.value_eq
  have hwanted := hput.wanted
  rcases setting with key | ⟨kind, name⟩
  · simp only [variableName, source, Source.variableName, value] at hvalue hwanted
    have htrue : booleanOf? "true" = some true := by decide +kernel
    have hset : ∀ on, key.set (key.set settings on) true = key.set settings true := by
      intro on
      cases key <;> rfl
    simp only [source, Source.read, readSwitch, hvalue, htrue]
    cases hfound : first.get? key.variableName with
    | none => rfl
    | some bound =>
        obtain ⟨on, hon⟩ := Option.isSome_iff_exists.mp (hwanted bound hfound).meaning
        simp only [hon, Except.map, apply, hset]
  · simp only [variableName, source, Source.variableName, value] at hvalue hwanted
    have hset : ∀ other, kind.set (kind.set settings other) name = kind.set settings name := by
      intro other
      cases kind <;> rfl
    simp only [source, Source.read, readEncoding, hvalue, if_pos (show _ = true from hknown)]
    cases hfound : first.get? kind.variableName with
    | none => rfl
    | some bound => simp only [if_pos (hwanted bound hfound).meaning, Except.map, apply, hset]

/-! All settings -/

theorem foldlM_read_of_notMem (hput : IsPut setting.variableName setting.value first second)
    {sources : List Source} (h : setting.source ∉ sources) (settings : Settings) :
    sources.foldlM (Source.read second) (setting.apply settings) =
      (sources.foldlM (Source.read first) settings).map setting.apply := by
  induction sources generalizing settings with
  | nil => rfl
  | cons source rest ih =>
      obtain ⟨hfirst, hrest⟩ := not_or.mp (mt List.mem_cons.mpr h)
      rw [List.foldlM_cons, List.foldlM_cons, read_eq_of_ne hput hfirst, read_apply_of_ne hfirst]
      cases source.read first settings with
      | error fault => rfl
      | ok read => exact ih hrest read

theorem foldlM_read (hknown : setting.IsKnown)
    (hput : EnvFile.IsPutOver setting.Accepts setting.variableName setting.value first second)
    {sources : List Source} (hmem : setting.source ∈ sources) (hnodup : sources.Nodup)
    (settings : Settings) :
    sources.foldlM (Source.read second) settings =
      (sources.foldlM (Source.read first) settings).map setting.apply := by
  induction sources generalizing settings with
  | nil => cases hmem
  | cons source rest ih =>
      obtain ⟨hfirst, hrest⟩ := List.nodup_cons.mp hnodup
      rw [List.foldlM_cons, List.foldlM_cons]
      by_cases hown : setting.source = source
      · subst hown
        rw [read_source hknown hput]
        cases setting.source.read first settings with
        | error fault => rfl
        | ok read => exact foldlM_read_of_notMem hput.toIsPut hfirst read
      · rw [read_eq_of_ne hput.toIsPut hown]
        cases source.read first settings with
        | error fault => rfl
        | ok read => exact ih (List.mem_of_ne_of_mem hown hmem) hrest read

theorem ofEnvironment_of_isPutOver (hknown : setting.IsKnown)
    (hput : EnvFile.IsPutOver setting.Accepts setting.variableName setting.value first second) :
    ofEnvironment second = (ofEnvironment first).map setting.apply := by
  rw [ofEnvironment_eq_foldlM, ofEnvironment_eq_foldlM]
  exact foldlM_read hknown hput setting.source.mem_all (by decide) {}

/-! Files of settings -/

-- The value that the variable has, by the environment or else by the file, is none or one that
-- the setting can be read from. No value in the file takes that of the variable into itself.
structure IsSettled (setting : Setting) (environment : Environment)
    (bindings : List EnvFile.Binding) : Prop where
  accepts : ∀ value,
    (environment.get? setting.variableName).or
      ((EnvFile.valuesOf environment bindings).lookup setting.variableName).join = some value →
    setting.Accepts value
  unreferenced : ∀ binding ∈ bindings, ¬binding.RefersTo setting.variableName

theorem withFile_of_fileText {files : FileTree} {environment : Environment} {path : Option String}
    {text : String} (h : fileText files environment (filePath path) = .ok text) :
    withFile files environment path =
      let values := EnvFile.valuesOf environment (EnvFile.bindings text.toList)
      (EnvFile.defineAll environment values).mapError .undefined >>= fun extended =>
        if values.isEmpty && path.any fun path => !path.isEmpty then throw (.noFile (filePath path))
        else pure extended := by
  rw [withFile, h]
  rfl

-- The variable does not decide whether a file is read.
theorem fileText_eq_of_isPut (hput : IsPut setting.variableName setting.value first second)
    (files : FileTree) (path : String) : fileText files second path = fileText files first path := by
  have hnames : ∀ name ∈ variableNames, disablingVariable ≠ name := by decide
  have hname : disablingVariable ≠ setting.variableName :=
    hnames _ (Source.variableName_mem setting.source)
  rw [fileText, fileText, isDisabled, isDisabled, hput.others _ hname]

-- In an environment with the variable, the settings are the same but for the setting.
theorem load_put (hknown : setting.IsKnown) {files : FileTree} {environment : Environment}
    {path : Option String}
    (hsettled : ∀ text, fileText files environment (filePath path) = .ok text →
      setting.IsSettled environment (EnvFile.bindings text.toList)) :
    load files (environment.put setting.variableName setting.value) path =
      (load files environment path).map setting.apply := by
  have hput := environment.isPut_put setting.variableName setting.value
  have hfile := fileText_eq_of_isPut hput files (filePath path)
  rw [load, load]
  cases htext : fileText files environment (filePath path) with
  | error fault =>
      rw [withFile, withFile, hfile, htext]
      rfl
  | ok text =>
      obtain ⟨haccepts, hfree⟩ := hsettled text htext
      have hover : EnvFile.IsPutOver setting.Accepts setting.variableName setting.value environment
          (environment.put setting.variableName setting.value) := by
        refine ⟨hput, fun bound hbound => haccepts bound ?_⟩
        rw [hbound, Option.some_or]
      have hvalues : environment.get? setting.variableName = none → ∀ bound,
          (setting.variableName, some bound) ∈
            EnvFile.valuesOf environment (EnvFile.bindings text.toList) →
          setting.Accepts bound := by
        intro hnone bound hm
        refine haccepts bound ?_
        rw [hnone, EnvFile.lookup_eq_of_mem (EnvFile.nodup_names_valuesOf _ _) hm]
        rfl
      have halike := EnvFile.defineAll_alike (fun _ => isDefinable_of_accepts) hover hvalues
      rw [withFile_of_fileText (hfile.trans htext), withFile_of_fileText htext,
        EnvFile.valuesOf_eq_of_isPut hput hfree]
      dsimp only
      generalize EnvFile.valuesOf environment (EnvFile.bindings text.toList) = values at halike ⊢
      generalize EnvFile.defineAll environment values = first at halike ⊢
      generalize EnvFile.defineAll _ values = second at halike ⊢
      cases halike with
      | error fault => rfl
      | @ok first second h =>
          have hsettings := ofEnvironment_of_isPutOver hknown h
          cases hempty : values.isEmpty && path.any fun path => !path.isEmpty with
          | true => rfl
          | false => exact hsettings

end Setting

end TableSchema.Settings
