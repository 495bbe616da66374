import TableSchema.Proofs.CommandLine.Presets

namespace TableSchema.CommandLine

-- The flags that say how a table is checked and what is shown of it, but not against what.
inductive Switch
  | failFast
  | showProgress
  | traceParser
  deriving DecidableEq, Repr

namespace Switch

def flag : Switch → Flag
  | failFast => .failFast
  | showProgress => .showProgress
  | traceParser => .traceParser

def text : Switch → String
  | failFast => "--fail-fast"
  | showProgress => "--show-progress"
  | traceParser => "--trace-parser"

def word (switch : Switch) : Word :=
  .flag (plainSpelling switch.flag)

theorem ofText_text (switch : Switch) : Word.ofText switch.text = .ok switch.word := by
  cases switch <;> rfl

theorem text_ne_separator (switch : Switch) : switch.text ≠ separator := by
  cases switch <;> decide

end Switch

/-! Requests with switches turned on -/

variable (switches : List Switch)

def Requests.turnedOn (requests : Requests) : Requests :=
  { requests with
    failFast := requests.failFast || switches.contains .failFast
    showProgress := requests.showProgress || switches.contains .showProgress
    traceParser := requests.traceParser || switches.contains .traceParser }

def Draft.turnedOn (draft : Draft) : Draft :=
  { draft with requests := draft.requests.turnedOn switches }

def Arguments.turnedOn (arguments : Arguments) : Arguments :=
  { arguments with toRequests := arguments.toRequests.turnedOn switches }

theorem Requests.add_switch (requests : Requests) (switch : Switch) :
    requests.add switch.flag [] = .ok (requests.turnedOn [switch]) := by
  cases switch <;> simp [Requests.add, Requests.turnedOn, Switch.flag]

theorem Requests.turnedOn_cons (requests : Requests) (switch : Switch) :
    requests.turnedOn (switch :: switches) = (requests.turnedOn [switch]).turnedOn switches := by
  cases switch <;> simp [Requests.turnedOn]

-- No flag looks at a switch, and none turns one off.
theorem Requests.isPreset_turnedOn : Requests.IsPreset (Requests.turnedOn switches) := by
  refine Requests.isPreset_of_asks ?_
  rintro ask hask requests
  cases hask <;> simp [Requests.turnedOn]

/-! Reading with switches turned on -/

-- Switches are read before anything else is.
theorem Draft.read_switches (draft : Draft) (words : List Word) (hpath : draft.endsInPath = false) :
    draft.read (switches.map Switch.word ++ words) = (draft.turnedOn switches).read words := by
  induction switches generalizing draft with
  | nil => simp [turnedOn, Requests.turnedOn]
  | cons switch rest ih =>
      have harity : switch.flag.arity = .none := by cases switch <;> rfl
      have hadd : draft.addFlag switch.flag [] = .ok (draft.turnedOn [switch]) := by
        simp only [addFlag, Requests.add_switch, turnedOn, hpath]
        rfl
      have hread : draft.read (switch.word :: (rest.map Switch.word ++ words)) =
          (draft.turnedOn [switch]).read (rest.map Switch.word ++ words) := by
        rw [Switch.word, read_plain harity, hadd]
        rfl
      rw [List.map_cons, List.cons_append, hread, ih (draft.turnedOn [switch]) hpath]
      simp only [turnedOn, Requests.turnedOn_cons rest _ switch]

theorem presets_switches :
    Presets (switches.map Switch.text) (switches.map Switch.word) (Requests.turnedOn switches) where
  isPreset := Requests.isPreset_turnedOn switches
  line_eq := by
    refine Line.ofTexts_append (List.forall₂_map_left_iff.mpr (List.forall₂_map_right_iff.mpr ?_))
    exact List.forall₂_same.mpr fun switch _ => ⟨switch.text_ne_separator, switch.ofText_text⟩
  read_eq := fun words => Draft.read_switches switches {} words rfl

-- Switches in front of a command line turn these switches on, and nothing else.
theorem Arguments.ofTexts_switches (texts : List String) :
    Arguments.ofTexts (switches.map Switch.text ++ texts) =
      (Arguments.ofTexts texts).map (Arguments.turnedOn switches) :=
  (presets_switches switches).ofTexts_eq texts

end TableSchema.CommandLine
