import TableSchema.Proofs.Rule.Unanswered

namespace TableSchema

-- An operand with a text in the place of a column.
def Operand.filled (cells : String → String) : Operand → Operand
  | .text value => .text value
  | .column name => .text (cells name)

namespace Rule

-- The faults of looking up a column or its cell.
def Fault.isLookup : Fault → Bool
  | .unknownColumn _ | .missingCell => true
  | .unorderedBound | .path _ => false

-- The rule with a text in the place of every column that it refers to.
def filled (cells : String → String) : Rule → Rule
  | .compare test operand => .compare test (operand.filled cells)
  | .fileExists root => .fileExists (root.map (Operand.filled cells))
  | .or left right => .or (left.filled cells) (right.filled cells)
  | rule => rule

theorem references_filled (cells : String → String) (rule : Rule) :
    (rule.filled cells).references = [] := by
  induction rule with
  | compare test operand => cases operand <;> rfl
  | fileExists root =>
      cases root with
      | none => rfl
      | some operand => cases operand <;> rfl
  | length bounds => cases bounds <;> rfl
  | or left right ihl ihr =>
      change (left.filled cells).references ++ (right.filled cells).references = []
      rw [ihl, ihr, List.append_nil]
  | _ => rfl

section Cells

variable {context : Context} {cells : String → String}

theorem operand_filled {operand : Operand}
    (h : ∀ name, operand = .column name → context.cell name = .ok (cells name)) :
    context.operand (operand.filled cells) = context.operand operand := by
  cases operand with
  | text value => rfl
  | column name => exact (h name rfl).symm

theorem evaluate_or_congr {left right left' right' : Rule} {value : String}
    (hleft : ∀ memory, left'.evaluate context value memory = left.evaluate context value memory)
    (hright : ∀ memory, right'.evaluate context value memory = right.evaluate context value memory)
    (memory : Memory) :
    (or left' right').evaluate context value memory = (or left right).evaluate context value memory := by
  simp only [evaluate, hleft, hright]

-- Of other columns a rule reads no more than the cells it refers to. With their texts in
-- it the rule has the same answer and remembers the same.
theorem evaluate_filled {rule : Rule}
    (h : ∀ name ∈ rule.references, context.cell name = .ok (cells name)) (value : String)
    (memory : Memory) :
    (rule.filled cells).evaluate context value memory = rule.evaluate context value memory := by
  induction rule generalizing memory with
  | compare test operand =>
      have hoperand : context.operand (operand.filled cells) = context.operand operand := by
        refine operand_filled ?_
        rintro name rfl
        exact h name (by simp [references, arguments, Operand.toArgument])
      simp only [filled, evaluate, holds, hoperand]
  | fileExists root =>
      have hroot : context.rooted (root.map (Operand.filled cells)) value =
          context.rooted root value := by
        cases root with
        | none => rfl
        | some operand =>
            have hoperand : context.operand (operand.filled cells) = context.operand operand := by
              refine operand_filled ?_
              rintro name rfl
              exact h name (by simp [references, arguments, Operand.toArgument])
            simp only [Option.map_some, Context.rooted, hoperand]
      simp only [filled, evaluate, holds, hroot]
  | or left right ihl ihr =>
      have hsides : ∀ name ∈ left.references ++ right.references,
          context.cell name = .ok (cells name) := h
      rw [List.forall_mem_append] at hsides
      exact evaluate_or_congr (ihl hsides.1) (ihr hsides.2) memory
  | _ => rfl

end Cells

theorem Unanswered.isLookup_eq_false {rule : Rule} {asked : List Question} {question : Question}
    {fault : Fault} (h : rule.Unanswered asked question fault) : fault.isLookup = false := by
  induction h with
  | bound => rfl
  | path => rfl
  | left _ ih => exact ih
  | right _ _ ih => exact ih

end Rule

end TableSchema
