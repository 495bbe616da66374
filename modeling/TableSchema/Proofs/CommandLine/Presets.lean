import Mathlib
import TableSchema.CommandLine

namespace TableSchema.CommandLine

/-! What a flag asks for -/

namespace Requests

-- What a flag can do to the requests.
inductive Asks : (Requests → Requests) → Prop
  | traceParser : Asks fun requests => { requests with traceParser := true }
  | failFast : Asks fun requests => { requests with failFast := true }
  | caseSensitivePaths : Asks fun requests => { requests with caseSensitivePaths := true }
  | disableUtf8Validation : Asks fun requests => { requests with disableUtf8Validation := true }
  | showProgress : Asks fun requests => { requests with showProgress := true }
  | csvEncoding (name : String) : Asks fun requests => { requests with csvEncoding := some name }
  | schemaEncoding (name : String) :
      Asks fun requests => { requests with schemaEncoding := some name }
  | envFile (path : String) : Asks fun requests => { requests with envFile := some path }
  | path (substitution : Substitution) : Asks fun requests =>
      { requests with substitutions := requests.substitutions ++ [substitution] }

-- A flag does not look at the requests before it.
theorem add_cases (flag : Flag) (arguments : List String) :
    (∃ exit, ∀ requests : Requests, requests.add flag arguments = .error exit) ∨
      ∃ ask, Asks ask ∧ ∀ requests : Requests, requests.add flag arguments = .ok (ask requests) := by
  fun_cases Requests.add {} flag arguments
  case case1 => exact .inl ⟨.help, fun _ => rfl⟩
  case case2 => exact .inl ⟨.version, fun _ => rfl⟩
  case case3 => exact .inr ⟨_, .traceParser, fun _ => rfl⟩
  case case4 => exact .inr ⟨_, .failFast, fun _ => rfl⟩
  case case5 => exact .inr ⟨_, .caseSensitivePaths, fun _ => rfl⟩
  case case6 => exact .inr ⟨_, .disableUtf8Validation, fun _ => rfl⟩
  case case7 => exact .inr ⟨_, .showProgress, fun _ => rfl⟩
  case case8 name =>
      simp only [add]
      cases encodingRequest name with
      | error exit => exact .inl ⟨exit, fun _ => rfl⟩
      | ok name => exact .inr ⟨_, .csvEncoding name, fun _ => rfl⟩
  case case9 name =>
      simp only [add]
      cases encodingRequest name with
      | error exit => exact .inl ⟨exit, fun _ => rfl⟩
      | ok name => exact .inr ⟨_, .schemaEncoding name, fun _ => rfl⟩
  case case10 path => exact .inr ⟨_, .envFile path, fun _ => rfl⟩
  case case11 source target => exact .inr ⟨_, .path { source, target }, fun _ => rfl⟩
  case case12 => exact .inl ⟨.usage, fun requests => by simp [add]⟩

end Requests

-- A change of requests that no flag looks at and none takes back, so that it comes to
-- the same in front of a line and behind it.
def Requests.IsPreset (change : Requests → Requests) : Prop :=
  ∀ (requests : Requests) (flag : Flag) (arguments : List String),
    (change requests).add flag arguments = (requests.add flag arguments).map change

theorem Requests.isPreset_of_asks {change : Requests → Requests}
    (h : ∀ ask, Asks ask → ∀ requests, ask (change requests) = change (ask requests)) :
    IsPreset change := by
  intro requests flag arguments
  rcases add_cases flag arguments with ⟨exit, hexit⟩ | ⟨ask, hask, hadd⟩
  · rw [hexit, hexit]
    rfl
  · rw [hadd, hadd, h ask hask]
    rfl

def Draft.changed (change : Requests → Requests) (draft : Draft) : Draft :=
  { draft with requests := change draft.requests }

def Arguments.changed (change : Requests → Requests) (arguments : Arguments) : Arguments :=
  { arguments with toRequests := change arguments.toRequests }

variable {change : Requests → Requests}

/-! Reading with changed requests -/

namespace Draft

-- What reads on in the same way with changed requests does so behind anything else.
theorem bind_changed {found : Except Exit Draft} {next : Draft → Except Exit Draft}
    (hnext : ∀ draft : Draft, next (draft.changed change) = (next draft).map (changed change)) :
    found.map (changed change) >>= next = (found >>= next).map (changed change) := by
  cases found with
  | error exit => rfl
  | ok draft => exact hnext draft

theorem addFlag_changed (hchange : Requests.IsPreset change) (draft : Draft) (flag : Flag)
    (arguments : List String) :
    (draft.changed change).addFlag flag arguments =
      (draft.addFlag flag arguments).map (changed change) := by
  simp only [addFlag, changed, hchange draft.requests]
  cases draft.requests.add flag arguments <;> rfl

theorem addFlags_changed (hchange : Requests.IsPreset change) (draft : Draft) (flags : List Flag) :
    (draft.changed change).addFlags flags = (draft.addFlags flags).map (changed change) := by
  induction flags generalizing draft with
  | nil => rfl
  | cons flag flags ih =>
      simp only [addFlags, addFlag_changed hchange]
      exact bind_changed ih

-- The flags of a word, the last one with its arguments, and what is read behind them.
theorem cluster_changed (hchange : Requests.IsPreset change) (draft : Draft) {flags : List Flag}
    {flag : Flag} {arguments : List String} {next : Draft → Except Exit Draft}
    (hnext : ∀ draft : Draft, next (draft.changed change) = (next draft).map (changed change)) :
    (do next (← (← (draft.changed change).addFlags flags).addFlag flag arguments)) =
      (do next (← (← draft.addFlags flags).addFlag flag arguments)).map (changed change) := by
  rw [addFlags_changed hchange]
  refine bind_changed fun draft => ?_
  rw [addFlag_changed hchange]
  exact bind_changed hnext

theorem addPath_changed (draft : Draft) (path : Option String) :
    (draft.changed change).addPath path = (draft.addPath path).changed change := by
  by_cases hroom : draft.paths.length < 2 <;> simp [addPath, changed, hroom]

theorem read_changed (hchange : Requests.IsPreset change) (draft : Draft) (words : List Word) :
    (draft.changed change).read words = (draft.read words).map (changed change) := by
  fun_induction read draft words with
  | case1 => rfl
  | case2 draft text rest ih => rw [read, addPath_changed, ih]
  | case3 draft rest ih => exact ih
  | case4 draft spelling rest exit hcluster =>
      simp only [read, hcluster]
      rfl
  | case5 draft spelling rest flags hcluster ih =>
      simp only [read, hcluster, addFlags_changed hchange]
      exact bind_changed ih
  | case6 draft spelling rest flags flag value hcluster ih =>
      simp only [read, hcluster]
      exact cluster_changed hchange draft ih
  | case7 draft spelling flags flag hcluster rest harity ih =>
      simp only [read, hcluster, harity]
      exact cluster_changed hchange draft ih
  | case8 draft spelling flags flag hcluster value rest harity ih =>
      simp only [read, hcluster, harity]
      exact cluster_changed hchange draft ih
  | case9 draft spelling flags flag hcluster first second rest harity ih =>
      simp only [read, hcluster, harity]
      exact cluster_changed hchange draft ih
  | case10 draft spelling rest flags flag hcluster hnone hone htwo =>
      simp only [read, hcluster]
      rfl

theorem addBehind_changed (draft : Draft) (texts : List String) :
    (draft.changed change).addBehind texts = (draft.addBehind texts).changed change := by
  induction texts generalizing draft with
  | nil => rfl
  | cons text texts ih =>
      simp only [addBehind]
      rw [← ih, ← addPath_changed]
      rfl

theorem readBehind_changed (draft : Draft) (behind : Option (List String)) :
    (draft.changed change).readBehind behind = (draft.readBehind behind).changed change := by
  rcases behind with _ | _ | ⟨text, texts⟩
  · rfl
  · cases hpath : draft.endsInPath <;> simp [readBehind, changed, leave, hpath]
  · exact addBehind_changed draft (text :: texts)

theorem finish_changed (draft : Draft) :
    (draft.changed change).finish = draft.finish.map (Arguments.changed change) := by
  simp only [finish, changed]
  split
  · by_cases hleft : draft.leftOver = true <;> simp [hleft, Except.map, Arguments.changed]
  · rfl

end Draft

/-! Texts in front of a line -/

-- Texts in front of the separator make words in front of those of any line.
theorem Line.ofTexts_append {texts : List String} {words : List Word}
    (h : List.Forall₂ (fun text word => text ≠ separator ∧ Word.ofText text = .ok word) texts words)
    (rest : List String) :
    Line.ofTexts (texts ++ rest) =
      (Line.ofTexts rest).map fun line => { line with words := words ++ line.words } := by
  induction h with
  | nil => cases hline : Line.ofTexts rest <;> simp [hline, Except.map]
  | cons hfirst _ ih =>
      obtain ⟨hseparator, hword⟩ := hfirst
      simp only [List.cons_append, Line.ofTexts, if_neg hseparator, hword, ih]
      cases Line.ofTexts rest <;> rfl

-- A flag that stands by itself, in front of anything.
theorem Draft.read_plain {flag : Flag} (harity : flag.arity = .none) (draft : Draft)
    (rest : List Word) :
    draft.read (.flag (plainSpelling flag) :: rest) =
      draft.addFlag flag [] >>= fun draft => draft.read rest := by
  have hcluster : (plainSpelling flag).cluster = .ok ⟨[], some (flag, none)⟩ := rfl
  simp only [read, hcluster, harity, addFlags]
  rfl

-- A flag with its argument behind it.
theorem Draft.read_plain_argument {flag : Flag} (harity : flag.arity = .one) (draft : Draft)
    (value : String) (rest : List Word) :
    draft.read (.flag (plainSpelling flag) :: .argument value :: rest) =
      draft.addFlag flag [value] >>= fun draft => draft.read rest := by
  have hcluster : (plainSpelling flag).cluster = .ok ⟨[], some (flag, none)⟩ := rfl
  simp only [read, hcluster, harity, addFlags]
  rfl

-- Texts that make words in front of those of any line, and words that make the change.
structure Presets (texts : List String) (words : List Word) (change : Requests → Requests) :
    Prop where
  isPreset : Requests.IsPreset change
  line_eq : ∀ rest, Line.ofTexts (texts ++ rest) =
    (Line.ofTexts rest).map fun line => { line with words := words ++ line.words }
  read_eq : ∀ rest, Draft.read {} (words ++ rest) = (Draft.changed change {}).read rest

-- They change what the line asks for, and nothing else.
theorem Presets.ofTexts_eq {texts : List String} {words : List Word}
    (h : Presets texts words change) (rest : List String) :
    Arguments.ofTexts (texts ++ rest) =
      (Arguments.ofTexts rest).map (Arguments.changed change) := by
  simp only [Arguments.ofTexts, h.line_eq]
  rcases Line.ofTexts rest with ⟨⟨⟩⟩ | line
  · rfl
  · simp only [Except.map]
    rw [h.read_eq, Draft.read_changed h.isPreset]
    cases Draft.read {} line.words with
    | error exit => rfl
    | ok draft =>
        change ((draft.changed change).readBehind line.behind).finish =
          (draft.readBehind line.behind).finish.map (Arguments.changed change)
        rw [Draft.readBehind_changed, Draft.finish_changed]

end TableSchema.CommandLine
