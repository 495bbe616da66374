import TableSchema.Proofs.Settings.Bindings
import TableSchema.Proofs.Settings.Sources

namespace TableSchema.Settings

open TableSchema.Text

/-! What the values of variables mean -/

-- What a field of the settings holds.
inductive Reading
  | switched (on : Bool)
  | named (text : String)
  deriving DecidableEq

-- A word for on or off, with space around it and in any letter case.
def IsWordFor (on : Bool) (value : String) : Prop :=
  String.ofList ((strip value.toList).map asciiLower) ∈ if on then trueWords else falseWords

theorem booleanOf?_eq_some_iff {value : String} {on : Bool} :
    booleanOf? value = some on ↔ IsWordFor on value := by
  have hdisjoint : ∀ word ∈ falseWords, word ∉ trueWords := by decide
  simp only [booleanOf?, IsWordFor, List.contains_iff_mem]
  generalize String.ofList ((strip value.toList).map asciiLower) = word
  cases on with
  | true => grind
  | false => grind

namespace Source

def field (settings : Settings) : Source → Reading
  | .switch .failFast => .switched settings.failFast
  | .switch .traceParser => .switched settings.traceParser
  | .switch .caseSensitivePaths => .switched settings.caseSensitivePaths
  | .switch .disableUtf8Validation => .switched settings.disableUtf8Validation
  | .encoding .csv => .named settings.csvEncoding
  | .encoding .schema => .named settings.schemaEncoding
  | .logLevel => .named settings.logLevel

theorem eq_of_field_eq {first second : Settings}
    (h : ∀ source : Source, source.field first = source.field second) : first = second := by
  have hfail := h (.switch .failFast)
  have htrace := h (.switch .traceParser)
  have hcase := h (.switch .caseSensitivePaths)
  have hutf8 := h (.switch .disableUtf8Validation)
  have hcsv := h (.encoding .csv)
  have hschema := h (.encoding .schema)
  have hlevel := h .logLevel
  simp only [field, Reading.switched.injEq, Reading.named.injEq] at *
  cases first
  cases second
  simp_all

-- What the value of the variable is read as. Without one the setting is the default. An empty
-- level is read as it is.
inductive Converts : Source → Option String → Reading → Prop
  | unset (source : Source) : Converts source none (source.field {})
  | switch (key : Switch) {value : String} {on : Bool} (h : IsWordFor on value) :
      Converts (.switch key) (some value) (.switched on)
  | encoding (kind : FileKind) {name : String} (h : Encoding.isCharsetName name = true) :
      Converts (.encoding kind) (some name) (.named name)
  | noLevel : Converts .logLevel (some "") (.named "")
  | level {name : String} {level : Log.Level} (h : Log.Level.named name = .ok level) :
      Converts .logLevel (some name) (.named (upperText name))

def IsValid (source : Source) (value : Option String) : Prop :=
  ∃ reading, source.Converts value reading

-- A value is read in one way.
theorem Converts.eq {source : Source} {value : Option String} {reading other : Reading}
    (h : source.Converts value reading) (hother : source.Converts value other) :
    reading = other := by
  cases h with
  | unset => cases hother; rfl
  | switch key h =>
      cases hother with
      | switch _ hother =>
          rw [← booleanOf?_eq_some_iff] at h hother
          rw [Option.some.inj (h.symm.trans hother)]
  | encoding kind h => cases hother; rfl
  | noLevel =>
      cases hother with
      | noLevel => rfl
      | level h => rfl
  | level h =>
      cases hother with
      | noLevel => rfl
      | level => rfl

/-! Reading one variable -/

variable {environment : Environment} {source : Source} {before after : Settings}

-- Settings that were changed for one variable.
structure Changed (source : Source) (reading : Reading) (before after : Settings) : Prop where
  field_eq : source.field after = reading
  others : ∀ other, other ≠ source → Source.field after other = Source.field before other

theorem changed_switch (key : Switch) (on : Bool) (settings : Settings) :
    Changed (.switch key) (.switched on) settings (key.set settings on) := by
  refine ⟨by cases key <;> rfl, fun other hne => ?_⟩
  rcases other with own | kind | _
  · cases key <;> cases own <;> first | rfl | exact absurd rfl hne
  · cases key <;> cases kind <;> rfl
  · cases key <;> rfl

theorem changed_encoding (kind : FileKind) (name : String) (settings : Settings) :
    Changed (.encoding kind) (.named name) settings (kind.set settings name) := by
  refine ⟨by cases kind <;> rfl, fun other hne => ?_⟩
  rcases other with key | own | _
  · cases kind <;> cases key <;> rfl
  · cases kind <;> cases own <;> first | rfl | exact absurd rfl hne
  · cases kind <;> rfl

theorem changed_logLevel (level : String) (settings : Settings) :
    Changed .logLevel (.named level) settings { settings with logLevel := level } := by
  refine ⟨rfl, fun other hne => ?_⟩
  rcases other with key | kind | _
  · cases key <;> rfl
  · cases kind <;> rfl
  · exact absurd rfl hne

-- A value that can be read changes the setting of its variable and no other.
theorem read_of_converts {reading : Reading} (hdefault : source.field before = source.field {})
    (h : source.Converts (environment.get? source.variableName) reading) :
    ∃ after, source.read environment before = .ok after ∧ Changed source reading before after := by
  generalize hvalue : environment.get? source.variableName = value at h
  cases h with
  | unset =>
      refine ⟨before, ?_, hdefault, fun _ _ => rfl⟩
      cases source <;> simp only [variableName] at hvalue <;>
        simp only [read, readSwitch, readEncoding, readLogLevel, hvalue]
  | @switch key value on h =>
      simp only [variableName] at hvalue
      refine ⟨_, ?_, changed_switch key on before⟩
      simp only [read, readSwitch, hvalue, booleanOf?_eq_some_iff.mpr h]
  | @encoding kind name h =>
      simp only [variableName] at hvalue
      refine ⟨_, ?_, changed_encoding kind name before⟩
      simp only [read, readEncoding, hvalue, if_pos h]
  | noLevel =>
      simp only [variableName] at hvalue
      refine ⟨_, ?_, changed_logLevel "" before⟩
      simp only [read, readLogLevel, hvalue]
      rfl
  | @level name level h =>
      simp only [variableName] at hvalue
      refine ⟨_, ?_, changed_logLevel (upperText name) before⟩
      simp only [read, readLogLevel, hvalue, h]
      split
      · rename_i hempty
        rw [String.isEmpty_iff.mp hempty]
        rfl
      · rfl

theorem isValid_of_read (h : source.read environment before = .ok after) :
    source.IsValid (environment.get? source.variableName) := by
  cases hvalue : environment.get? source.variableName with
  | none => exact ⟨_, .unset source⟩
  | some value =>
      cases source with
      | switch key =>
          simp only [variableName] at hvalue
          simp only [read, readSwitch, hvalue] at h
          split at h
          · rename_i on hon
            exact ⟨_, .switch key (booleanOf?_eq_some_iff.mp hon)⟩
          · cases h
      | encoding kind =>
          simp only [variableName] at hvalue
          simp only [read, readEncoding, hvalue] at h
          split at h
          · rename_i hknown
            exact ⟨_, .encoding kind hknown⟩
          · cases h
      | logLevel =>
          simp only [variableName] at hvalue
          simp only [read, readLogLevel, hvalue] at h
          split at h
          · rename_i hempty
            rw [String.isEmpty_iff.mp hempty]
            exact ⟨_, .noLevel⟩
          · split at h
            · rename_i level hlevel
              exact ⟨_, .level hlevel⟩
            · cases h

theorem Converts.exists_field {source : Source} {value : Option String} {reading : Reading}
    (h : source.Converts value reading) : ∃ settings : Settings, source.field settings = reading := by
  cases h with
  | unset => exact ⟨{}, rfl⟩
  | switch key => exact ⟨_, (changed_switch key _ {}).field_eq⟩
  | encoding kind => exact ⟨_, (changed_encoding kind _ {}).field_eq⟩
  | noLevel => exact ⟨_, (changed_logLevel _ {}).field_eq⟩
  | level => exact ⟨_, (changed_logLevel _ {}).field_eq⟩

/-! Reading all of them -/

theorem foldlM_read_eq_ok_iff {sources : List Source} (hnodup : sources.Nodup)
    (hdefault : ∀ source ∈ sources, Source.field before source = Source.field {} source) :
    sources.foldlM (Source.read environment) before = .ok after ↔
      (∀ source ∈ sources,
        source.Converts (environment.get? source.variableName) (source.field after)) ∧
        ∀ source, source ∉ sources → source.field after = source.field before := by
  induction sources generalizing before with
  | nil =>
      rw [List.foldlM_nil]
      constructor
      · intro h
        obtain rfl := Except.ok.inj h
        exact ⟨nofun, fun _ _ => rfl⟩
      · rintro ⟨-, h⟩
        rw [eq_of_field_eq fun source => (h source List.not_mem_nil).symm]
        rfl
  | cons source rest ih =>
      obtain ⟨hfirst, hrest⟩ := List.nodup_cons.mp hnodup
      obtain ⟨hdefault, hdefaults⟩ := List.forall_mem_cons.mp hdefault
      -- Behind the first variable the others are still unread.
      have hbehind : ∀ {reading middle}, Changed source reading before middle →
          ∀ other ∈ rest, other.field middle = other.field {} := by
        intro reading middle hchanged other hm
        rw [hchanged.others other (fun heq => hfirst (heq ▸ hm)), hdefaults other hm]
      rw [List.foldlM_cons, bind_eq_ok_iff]
      constructor
      · rintro ⟨middle, hmiddle, h⟩
        obtain ⟨reading, hreading⟩ := isValid_of_read hmiddle
        obtain ⟨found, hfound, hchanged⟩ := read_of_converts hdefault hreading
        obtain rfl := Except.ok.inj (hfound.symm.trans hmiddle)
        obtain ⟨hall, hothers⟩ := (ih hrest (hbehind hchanged)).mp h
        refine ⟨List.forall_mem_cons.mpr ⟨?_, hall⟩, fun other hother => ?_⟩
        · rwa [hothers source hfirst, hchanged.field_eq]
        · obtain ⟨hne, hother⟩ := not_or.mp (mt List.mem_cons.mpr hother)
          rw [hothers other hother, hchanged.others other hne]
      · rintro ⟨hall, hothers⟩
        obtain ⟨hreading, hall⟩ := List.forall_mem_cons.mp hall
        obtain ⟨middle, hmiddle, hchanged⟩ := read_of_converts hdefault hreading
        refine ⟨middle, hmiddle, (ih hrest (hbehind hchanged)).mpr ⟨hall, fun other hother => ?_⟩⟩
        by_cases hne : other = source
        · rw [hne, hchanged.field_eq]
        · rw [hchanged.others other hne, hothers other fun hm => hother (List.mem_of_ne_of_mem hne hm)]

end Source

-- The settings of an environment: each one is what its variable is read as.
theorem ofEnvironment_eq_ok_iff {environment : Environment} {settings : Settings} :
    ofEnvironment environment = .ok settings ↔
      ∀ source : Source,
        source.Converts (environment.get? source.variableName) (source.field settings) := by
  have hnodup : Source.all.Nodup := by decide
  rw [ofEnvironment_eq_foldlM, Source.foldlM_read_eq_ok_iff hnodup fun _ _ => rfl]
  exact ⟨fun h source => h.1 source source.mem_all,
    fun h => ⟨fun source _ => h source, fun source hm => absurd source.mem_all hm⟩⟩

/-! Files of settings -/

-- A file is asked for by its path.
def IsAsked (path : Option String) : Prop :=
  path.any (fun path => !path.isEmpty) = true

theorem withFile_eq_ok_iff {files : FileTree} {environment extended : Environment}
    {path : Option String} {text : String} (h : fileText files environment (filePath path) = .ok text) :
    let bindings := EnvFile.bindings text.toList
    withFile files environment path = .ok extended ↔
      ¬(IsAsked path ∧ bindings = []) ∧
        EnvFile.defineAll environment (EnvFile.valuesOf environment bindings) = .ok extended := by
  intro bindings
  rw [Setting.withFile_of_fileText h]
  dsimp only
  change (Except.mapError _ (EnvFile.defineAll environment (EnvFile.valuesOf environment bindings)) >>=
    _) = _ ↔ _
  rw [IsAsked, ← EnvFile.valuesOf_eq_nil_iff environment bindings, ← List.isEmpty_iff]
  generalize EnvFile.valuesOf environment bindings = values
  cases EnvFile.defineAll environment values with
  | error fault => exact iff_of_false nofun fun h => nomatch h.2
  | ok found =>
      cases hmissing : values.isEmpty && path.any fun path => !path.isEmpty with
      | true =>
          rw [Bool.and_eq_true, and_comm] at hmissing
          exact iff_of_false nofun fun h => h.1 hmissing
      | false =>
          have hnot : ¬(path.any (fun path => !path.isEmpty) = true ∧ values.isEmpty = true) := by
            rw [and_comm, ← Bool.and_eq_true, hmissing]
            exact Bool.false_ne_true
          exact ⟨fun h => ⟨hnot, congrArg _ (Except.ok.inj h)⟩,
            fun h => congrArg _ (Except.ok.inj h.2)⟩

-- Settings can be loaded if the file binds something or was not asked for, if the environment can
-- hold what the file adds to it, and if each variable has a value that can be read.
theorem load_eq_ok_iff {files : FileTree} {environment : Environment} {path : Option String}
    {text : String} (h : fileText files environment (filePath path) = .ok text) (settings : Settings) :
    let bindings := EnvFile.bindings text.toList
    load files environment path = .ok settings ↔
      ¬(IsAsked path ∧ bindings = []) ∧ EnvFile.IsLoadable environment bindings ∧
        ∀ source : Source, ∃ value,
          EnvFile.Takes environment bindings source.variableName value ∧
            source.Converts value (source.field settings) := by
  intro bindings
  have hnodup := EnvFile.nodup_names_valuesOf environment bindings
  have hfields : ∀ {extended}, EnvFile.defineAll environment (EnvFile.valuesOf environment bindings) =
      .ok extended → (ofEnvironment extended = .ok settings ↔ ∀ source : Source, ∃ value,
        EnvFile.Takes environment bindings source.variableName value ∧
          source.Converts value (source.field settings)) := by
    intro extended hextended
    rw [ofEnvironment_eq_ok_iff]
    refine forall_congr' fun source => ?_
    simp only [EnvFile.takes_iff, exists_eq_left]
    rw [EnvFile.get?_of_defineAll hnodup hextended]
  rw [load, bind_eq_ok_iff, ← EnvFile.exists_defineAll_iff_isLoadable]
  simp only [withFile_eq_ok_iff h]
  constructor
  · rintro ⟨extended, ⟨hasked, hextended⟩, hsettings⟩
    exact ⟨hasked, ⟨extended, hextended⟩, (hfields hextended).mp hsettings⟩
  · rintro ⟨hasked, ⟨extended, hextended⟩, hall⟩
    exact ⟨extended, ⟨hasked, hextended⟩, (hfields hextended).mpr hall⟩

-- If every variable has a value that can be read, there are settings of these values.
theorem exists_settings_of_converts {value : Source → Option String}
    (h : ∀ source : Source, source.IsValid (value source)) :
    ∃ settings : Settings, ∀ source : Source, source.Converts (value source) (source.field settings) := by
  have hone : ∀ source : Source, ∃ settings : Settings,
      source.Converts (value source) (source.field settings) := by
    intro source
    obtain ⟨reading, hreading⟩ := h source
    obtain ⟨settings, hsettings⟩ := hreading.exists_field
    exact ⟨settings, hsettings ▸ hreading⟩
  choose part hpart using hone
  refine ⟨{
    failFast := (part (.switch .failFast)).failFast
    traceParser := (part (.switch .traceParser)).traceParser
    caseSensitivePaths := (part (.switch .caseSensitivePaths)).caseSensitivePaths
    disableUtf8Validation := (part (.switch .disableUtf8Validation)).disableUtf8Validation
    csvEncoding := (part (.encoding .csv)).csvEncoding
    schemaEncoding := (part (.encoding .schema)).schemaEncoding
    logLevel := (part .logLevel).logLevel }, fun source => ?_⟩
  convert hpart source using 1
  rcases source with key | kind | _
  · cases key <;> rfl
  · cases kind <;> rfl
  · rfl

-- The settings with a file cannot be read exactly if the file is asked for and binds nothing, if
-- it gives a variable a value that the variable cannot have, or if the value that one of the
-- seven variables takes means nothing. Otherwise each setting is what its variable's value means.
theorem load_reads_effective {files : FileTree} {environment : Environment} {path : Option String}
    {text : String} (h : fileText files environment (filePath path) = .ok text) :
    let bindings := EnvFile.bindings text.toList
    ((∃ fault, load files environment path = .error fault) ↔
        IsAsked path ∧ bindings = [] ∨ ¬EnvFile.IsLoadable environment bindings ∨
          ∃ (source : Source) (value : Option String),
            EnvFile.Takes environment bindings source.variableName value ∧ ¬source.IsValid value) ∧
      ∀ settings, load files environment path = .ok settings →
        ∀ source : Source, ∃ value,
          EnvFile.Takes environment bindings source.variableName value ∧
            source.Converts value (source.field settings) := by
  intro bindings
  have hload := @load_eq_ok_iff files environment path text h
  refine ⟨?_, fun settings hsettings => ((hload settings).mp hsettings).2.2⟩
  have hfails : (∃ fault, load files environment path = .error fault) ↔
      ¬∃ settings, load files environment path = .ok settings := by
    cases load files environment path with
    | error fault => exact iff_of_true ⟨fault, rfl⟩ nofun
    | ok settings => exact iff_of_false nofun (not_not_intro ⟨settings, rfl⟩)
  rw [hfails, ← not_iff_not, not_not]
  simp only [hload]
  push Not
  constructor
  · rintro ⟨settings, hasked, hloadable, hfields⟩
    refine ⟨hasked, hloadable, fun source value htakes => ?_⟩
    obtain ⟨found, hfound, hconverts⟩ := hfields source
    rw [EnvFile.takes_iff] at htakes hfound
    exact ⟨_, htakes.trans hfound.symm ▸ hconverts⟩
  · rintro ⟨hasked, hloadable, hvalid⟩
    obtain ⟨settings, hsettings⟩ := exists_settings_of_converts fun source =>
      hvalid source _ (EnvFile.takes_iff.mpr rfl)
    exact ⟨settings, hasked, hloadable, fun source =>
      ⟨_, EnvFile.takes_iff.mpr rfl, hsettings source⟩⟩

-- A file with nothing but a remark, one with an empty level, and one that binds a name twice.
def remarkText : String := "# no settings yet\n\n"

def emptyLevelText : String := "CSV_VALIDATOR_LOG_LEVEL=\n"

def layeredText : String :=
  "CSV_VALIDATOR_FAIL_FAST=x\nN=Yes\nexport CSV_VALIDATOR_FAIL_FAST=\" $\x7bN\x7d \" # on\n"

def layeredFiles : FileTree where
  entries := [(["a.env"], .file (Text.Utf8.encode remarkText.toList)),
    (["b.env"], .file (Text.Utf8.encode emptyLevelText.toList)),
    (["c.env"], .file (Text.Utf8.encode layeredText.toList))]
  workingDirectory := []

-- The file with the remark is said to be missing, although no variable takes a value that means
-- nothing. The empty level is taken, although no level has this name.
theorem load_fails_of_remarkText :
    (fileText layeredFiles ⟨[]⟩ "a.env" = .ok remarkText ∧
        load layeredFiles ⟨[]⟩ (some "a.env") = .error (.noFile "a.env") ∧
        ∀ (source : Source) (value : Option String),
          EnvFile.Takes ⟨[]⟩ (EnvFile.bindings remarkText.toList) source.variableName value →
          source.IsValid value) ∧
      load layeredFiles ⟨[]⟩ (some "b.env") = .ok { logLevel := "" } ∧
      ∀ level, Log.Level.named "" ≠ .ok level := by
  have hbindings : EnvFile.bindings remarkText.toList = [] := by decide +kernel
  refine ⟨⟨by decide +kernel, by decide +kernel, fun source value htakes => ?_⟩, by decide +kernel, ?_⟩
  · rw [hbindings, EnvFile.takes_iff] at htakes
    obtain rfl : value = none := htakes
    exact ⟨_, .unset source⟩
  · intro level
    cases level <;> decide +kernel

theorem load_reads_effective_of_layeredText :
    let environment : Environment := ⟨[("CSV_VALIDATOR_SCHEMA_ENCODING", "latin-1")]⟩
    let settings : Settings := { failFast := true, schemaEncoding := "latin-1" }
    fileText layeredFiles environment (filePath (some "c.env")) = .ok layeredText ∧
      load layeredFiles environment (some "c.env") = .ok settings ∧
      ∀ source : Source, ∃ value,
        EnvFile.Takes environment (EnvFile.bindings layeredText.toList) source.variableName value ∧
          source.Converts value (source.field settings) := by
  intro environment settings
  have htext : fileText layeredFiles environment (filePath (some "c.env")) = .ok layeredText := by decide +kernel
  have hload : load layeredFiles environment (some "c.env") = .ok settings := by decide +kernel
  exact ⟨htext, hload, (load_reads_effective htext).2 settings hload⟩

end TableSchema.Settings
