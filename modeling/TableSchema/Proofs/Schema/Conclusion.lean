import Mathlib
import TableSchema.Schema.Parser

namespace TableSchema.Schema

/-! Steps that say what came of a text -/

def Step.isVerdict : Step → Bool
  | .failure _ => true
  | .rejection _ => true
  | .acceptance _ => true
  | _ => false

-- The step with which reading ends. A limit of the reader is no verdict on the text.
def verdict? {α : Type} (accepted : α → Option Step) : Except ParseFault α → Option Step
  | .ok value => accepted value
  | .error (.syntaxError diagnostic) => some (.failure diagnostic)
  | .error (.rejected found) => some (.rejection found.length)
  | .error _ => none

-- A part of a schema is no whole one yet.
def silent {α : Type} : α → Option Step :=
  fun _ => none

-- The steps of a part of the parser hold its verdict as the last one, and no other.
def Parse.Concludes {α : Type} (accepted : α → Option Step) (parse : Parse α) : Prop :=
  ∃ opening, (∀ step ∈ opening, step.isVerdict = false) ∧
    parse.steps = opening ++ (verdict? accepted parse.result).toList

namespace Parse.Concludes

variable {α β : Type} {accepted : β → Option Step}

theorem pure (value : α) : Concludes silent (Pure.pure value : Parse α) :=
  ⟨[], nofun, rfl⟩

theorem fail (cause : Cause) (token : Token) : Concludes accepted (Parse.fail cause token) :=
  ⟨[], nofun, rfl⟩

theorem abort {fault : ParseFault} (h : verdict? accepted (.error fault) = none) :
    Concludes accepted (Parse.abort fault) :=
  ⟨[], nofun, by rw [Parse.abort, h]; rfl⟩

-- Only the part that fails, or else the last one, has a verdict.
theorem bind {first : Parse α} {next : α → Parse β} (hfirst : Concludes silent first)
    (hnext : ∀ value, Concludes accepted (next value)) : Concludes accepted (first >>= next) := by
  obtain ⟨opening, hopening, hsteps⟩ := hfirst
  change Concludes accepted (Parse.bind first next)
  cases hresult : first.result with
  | error fault =>
      refine ⟨opening, hopening, ?_⟩
      rw [hresult] at hsteps
      simp only [Parse.bind, hresult, hsteps]
      cases fault <;> rfl
  | ok value =>
      obtain ⟨others, hothers, hlast⟩ := hnext value
      have hquiet : first.steps = opening := by
        rw [hsteps, hresult]
        exact List.append_nil opening
      refine ⟨opening ++ others, List.forall_mem_append.mpr ⟨hopening, hothers⟩, ?_⟩
      simp only [Parse.bind, hresult, hquiet, hlast, List.append_assoc]

theorem note_bind {step : Step} {next : Unit → Parse β} (hstep : step.isVerdict = false)
    (h : Concludes accepted (next ())) : Concludes accepted (note step >>= next) := by
  have hnote : Concludes silent (note step) :=
    ⟨[step], by simpa using hstep, rfl⟩
  exact hnote.bind fun _ => h

end Parse.Concludes

/-! The parts of the parser -/

theorem argumentsFrom_concludes (tokens : List Token) :
    Parse.Concludes silent (argumentsFrom tokens) := by
  fun_induction argumentsFrom tokens with
  | case4 _ _ _ _ _ _ ih => exact ih.bind fun _ => .pure _
  | case5 => exact .pure _
  | _ => exact .fail _ _

theorem arguments_concludes (tokens : List Token) : Parse.Concludes silent (arguments tokens) := by
  simp only [arguments]
  split
  · split
    · exact .pure _
    · exact (argumentsFrom_concludes _).bind fun _ => .pure _
  · exact .pure _

theorem buildRule_concludes (token : Token) (name : Rule.Name) (arguments : List Argument) :
    Parse.Concludes silent (buildRule token name arguments) := by
  simp only [buildRule]
  split
  · exact .pure _
  · exact .fail _ _
  · exact .fail _ _
  · exact .abort rfl
  · exact .abort rfl

theorem ruleAt_concludes (token : Token) (rest : List Token) :
    Parse.Concludes silent (ruleAt token rest) := by
  simp only [ruleAt]
  split
  · exact .fail _ _
  · split
    · exact .fail _ _
    · refine (arguments_concludes _).bind fun found => ?_
      exact (buildRule_concludes _ _ _).bind fun rule => .note_bind rfl (.pure _)

theorem join_concludes (left right : Rule) : Parse.Concludes silent (join left right) := by
  rw [join]
  split
  · exact .abort rfl
  · exact .note_bind rfl (.pure _)

theorem alternatives_concludes (left : Rule) (tokens : List Token) :
    Parse.Concludes silent (alternatives left tokens) := by
  fun_induction alternatives left tokens with
  | case1 => exact .pure _
  | case2 left token rest _ ih =>
      refine (ruleAt_concludes _ _).bind fun found => (join_concludes _ _).bind fun joined => ?_
      exact (ih _ _).bind fun _ => .pure _
  | case3 => exact .pure _

theorem rulesFrom_concludes (tokens : List Token) : Parse.Concludes silent (rulesFrom tokens) := by
  fun_induction rulesFrom tokens with
  | case1 => exact .pure _
  | case2 token rest _ ih =>
      refine (ruleAt_concludes _ _).bind fun first => ?_
      refine (alternatives_concludes _ _).bind fun joined => ?_
      exact (ih _ _).bind fun _ => .pure _
  | case3 => exact .pure _

theorem directivesFrom_concludes (seen : List Directive) (tokens : List Token) :
    Parse.Concludes silent (directivesFrom seen tokens) := by
  fun_induction directivesFrom seen tokens with
  | case1 => exact .pure _
  | case2 => exact .fail _ _
  | case3 => exact .fail _ _
  | case4 _ _ _ _ _ _ _ ih => exact .note_bind rfl (ih.bind fun _ => .pure _)
  | case5 => exact .pure _

theorem columnOf_concludes (tokens : List Token) : Parse.Concludes silent (columnOf tokens) := by
  simp only [columnOf]
  split
  · exact .fail _ _
  · split
    · exact .fail _ _
    · refine .note_bind rfl ((rulesFrom_concludes _).bind fun rules => ?_)
      refine (directivesFrom_concludes _ _).bind fun directives => ?_
      split
      · exact .fail _ _
      · exact .pure _

theorem columnsOf_concludes (lines : List Line) : Parse.Concludes silent (columnsOf lines) := by
  induction lines with
  | nil => exact .pure _
  | cons line lines ih =>
      refine .note_bind rfl ((columnOf_concludes _).bind fun first => ?_)
      exact ih.bind fun _ => .pure _

theorem totalOf_concludes (token : Token) : Parse.Concludes silent (totalOf token) := by
  simp only [totalOf]
  split
  · exact .fail _ _
  · split
    · exact .abort rfl
    · split
      · exact .fail _ _
      · exact .pure _

theorem globalOptions_concludes (slots : List GlobalOption) (tokens : List Token) :
    Parse.Concludes silent (globalOptions slots tokens) := by
  fun_induction globalOptions slots tokens with
  | case1 => exact .pure _
  | case2 => exact .pure _
  | case3 => exact .fail _ _
  | case4 _ _ _ _ _ _ _ ih => exact .note_bind rfl (ih.bind fun _ => .pure _)

theorem globalsOf_concludes (tokens : List Token) : Parse.Concludes silent (globalsOf tokens) := by
  simp only [globalsOf]
  split
  · refine (totalOf_concludes _).bind fun total => .note_bind rfl ?_
    exact (globalOptions_concludes _ _).bind fun _ => .pure _
  · exact .fail _ _

/-! The whole text -/

def acceptance (schema : Schema) : Option Step :=
  some (.acceptance schema.columns.length)

theorem finish_concludes (globals : Globals) (columns : List Column) (start : Token)
    (starts : List Token) : Parse.Concludes acceptance (finish globals columns start starts) := by
  simp only [finish]
  split
  · exact ⟨[], nofun, rfl⟩
  · exact ⟨[], nofun, rfl⟩

theorem schemaOf_concludes (lines : List Line) : Parse.Concludes acceptance (schemaOf lines) := by
  cases lines with
  | nil => exact .fail _ _
  | cons first lines =>
      refine .note_bind rfl ((globalsOf_concludes _).bind fun globals => ?_)
      exact (columnsOf_concludes _).bind fun columns => finish_concludes _ _ _ _

theorem parse_concludes (text : String) : Parse.Concludes acceptance (parse text) :=
  schemaOf_concludes _

end TableSchema.Schema
