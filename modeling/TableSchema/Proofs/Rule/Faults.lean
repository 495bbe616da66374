import Mathlib
import TableSchema.Rule.Build

namespace TableSchema.Rule

-- What is wrong with arguments, or with the syntax of a pattern, is reported at
-- the rule. Every other fault of building it ends the parser.
def BuildFault.isReported : BuildFault → Bool
  | .arguments _ => true
  | .pattern _ (.malformed _ _) => true
  | _ => false

-- All faults of a part of the builder are reported.
def Reports {α : Type} (built : Except BuildFault α) : Prop :=
  ∀ fault, built = .error fault → fault.isReported = true

theorem reports_ok {α : Type} (value : α) : Reports (.ok value) := nofun

theorem reports_error {α : Type} (fault : ArgumentFault) :
    Reports (.error (.arguments fault) : Except BuildFault α) := by
  intro _ h
  obtain rfl := Except.error.inj h
  rfl

theorem reports_error_bind {α β : Type} (fault : ArgumentFault) (next : α → Except BuildFault β) :
    Reports (.error (.arguments fault) >>= next) :=
  reports_error fault

theorem Reports.bind {α β : Type} {built : Except BuildFault α}
    {next : α → Except BuildFault β} (hbuilt : Reports built) (hnext : ∀ value, Reports (next value)) :
    Reports (built >>= next) := by
  intro fault h
  cases built with
  | error other =>
      obtain rfl := Except.error.inj h
      exact hbuilt other rfl
  | ok value => exact hnext value fault h

theorem Reports.map {α β : Type} {built : Except BuildFault α} (h : Reports built) (f : α → β) :
    Reports (built.map f) := by
  intro fault hf
  cases built with
  | error other =>
      obtain rfl := Except.error.inj hf
      exact h other rfl
  | ok value => cases hf

theorem reports_operandOf (name : Name) (arguments : List Argument) :
    Reports (operandOf name arguments) := by
  simp only [operandOf]
  split <;> first | exact reports_ok _ | exact reports_error _

theorem reports_boundOf {α : Type} (name : Name) (read? : List Char → Option α)
    (argument : Argument) : Reports (boundOf name read? argument) := by
  simp only [boundOf]
  split
  · split
    · exact reports_ok _
    · split
      · exact reports_ok _
      · exact reports_error _
  · exact reports_error _

theorem reports_plain (name : Name) (rule : Rule) (arguments : List Argument) :
    Reports (plain name rule arguments) := by
  simp only [plain]
  split
  · exact reports_ok rule
  · exact reports_error _

theorem reports_buildLength (arguments : List Argument) : Reports (buildLength arguments) := by
  simp only [buildLength]
  split
  · refine (reports_boundOf _ _ _).bind fun bound => ?_
    split
    · exact reports_error_bind _ _
    · split
      · exact reports_error _
      · exact reports_ok _
  · refine (reports_boundOf _ _ _).bind fun least => (reports_boundOf _ _ _).bind fun most => ?_
    split
    · exact reports_error_bind _ _
    · split
      · split
        · exact reports_error _
        · exact reports_ok _
      · exact reports_ok _
  · exact reports_error _

-- Only patterns and ranges can break the parser.
theorem reports_build {name : Name} (hregex : name ≠ .regex) (hrange : name ≠ .range)
    (arguments : List Argument) : Reports (build name arguments) := by
  cases name with
  | regex => exact absurd rfl hregex
  | range => exact absurd rfl hrange
  | compare test => exact (reports_operandOf _ _).map _
  | length => exact reports_buildLength arguments
  | fileExists =>
      simp only [build]
      split
      · exact reports_ok _
      · exact (reports_operandOf _ _).map _
  | _ => exact reports_plain _ _ _

end TableSchema.Rule
