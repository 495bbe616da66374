import TableSchema.Proofs.Rule.Arguments
import TableSchema.Proofs.Rule.Faults

namespace TableSchema.Rule

-- The calls that are no fault of a schema and break the parser nevertheless: two
-- bounds of which one is not a number, and a pattern beyond the limits of patterns.
inductive Breaking : Name → List Argument → Prop
  | bounds {low high : Argument} {a b : Number.Decimal} (hlow : rangeBound low = .ok (some a))
      (hhigh : rangeBound high = .ok (some b)) (hnan : a.isNan = true ∨ b.isNan = true) :
      Breaking .range [low, high]
  | pattern {text : String} {fault : Pattern.Fault} (h : Pattern.ofText text = .error fault)
      (hlimit : ∀ cause position, fault ≠ .malformed cause position) :
      Breaking .regex [.text text]

theorem Breaking.arguments_ne_nil {name : Name} {arguments : List Argument}
    (h : Breaking name arguments) : arguments ≠ [] := by
  cases h with
  | bounds => nofun
  | pattern => nofun

theorem Breaking.exists_fault {name : Name} {arguments : List Argument}
    (h : Breaking name arguments) :
    ∃ cause, build name arguments = .error cause ∧ cause.isReported = false := by
  cases h with
  | bounds hlow hhigh hnan =>
      refine ⟨.unorderedBounds, ?_, rfl⟩
      have hnone := Number.Decimal.compare?_eq_none_iff.mpr hnan
      exact (buildRange_of_rangeBound hlow hhigh).2 hnone
  | @pattern text fault h hlimit =>
      refine ⟨.pattern text fault, ?_, ?_⟩
      · simp only [build, buildRegex, operandOf, bind, Except.bind, h]
        rfl
      · cases fault with
        | malformed cause position => exact absurd rfl (hlimit cause position)
        | _ => rfl

theorem breaking_of_buildRange {arguments : List Argument} {cause : BuildFault}
    (h : buildRange arguments = .error cause) (hcause : cause.isReported = false) :
    Breaking .range arguments := by
  simp only [buildRange] at h
  split at h
  · rename_i first second
    rcases bind_eq_error_iff.mp h with h | ⟨low, hlow, h⟩
    · rw [reports_boundOf _ _ _ _ h] at hcause
      cases hcause
    · rcases bind_eq_error_iff.mp h with h | ⟨high, hhigh, h⟩
      · rw [reports_boundOf _ _ _ _ h] at hcause
        cases hcause
      · split at h
        · split at h
          · rename_i hnone
            exact .bounds hlow hhigh (Number.Decimal.compare?_eq_none_iff.mp hnone)
          · obtain rfl := Except.error.inj h
            cases hcause
          · cases h
        · cases h
  · obtain rfl := Except.error.inj h
    cases hcause

theorem breaking_of_buildRegex {arguments : List Argument} {cause : BuildFault}
    (h : buildRegex arguments = .error cause) (hcause : cause.isReported = false) :
    Breaking .regex arguments := by
  rcases bind_eq_error_iff.mp h with h | ⟨operand, hoperand, hbuilt⟩
  · rw [reports_operandOf _ _ _ h] at hcause
    cases hcause
  · obtain rfl := eq_of_operandOf hoperand
    cases operand with
    | column =>
        obtain rfl := Except.error.inj hbuilt
        cases hcause
    | text text =>
        dsimp only at hbuilt
        split at hbuilt
        · cases hbuilt
        · rename_i fault hpattern
          obtain rfl := Except.error.inj hbuilt
          refine .pattern hpattern ?_
          rintro cause position rfl
          cases hcause

-- These calls break the parser, and no other ones do.
theorem breaking_iff {name : Name} {arguments : List Argument} :
    Breaking name arguments ↔
      ∃ cause, build name arguments = .error cause ∧ cause.isReported = false := by
  constructor
  · exact Breaking.exists_fault
  · rintro ⟨cause, hbuild, hcause⟩
    by_cases hrange : name = .range
    · subst hrange
      exact breaking_of_buildRange hbuild hcause
    · by_cases hregex : name = .regex
      · subst hregex
        exact breaking_of_buildRegex hbuild hcause
      · rw [reports_build hregex hrange arguments cause hbuild] at hcause
        cases hcause

end TableSchema.Rule
