import Mathlib
import TableSchema.Rule.Evaluation

namespace TableSchema.Rule

-- A cell that a rule is asked about, and what the rule may look at besides it.
structure Question where
  context : Context
  value : String

def memoryFrom (rule : Rule) (memory : Memory) (asked : List Question) : Memory :=
  asked.foldl (fun memory question => (rule.evaluate question.context question.value memory).2) memory

-- What a rule remembers behind the questions of a run.
def memoryAfter (rule : Rule) (asked : List Question) : Memory :=
  rule.memoryFrom rule.initialMemory asked

-- The answer of a rule to a question, behind the questions of a run before it.
def answer (rule : Rule) (asked : List Question) (question : Question) : Except Fault Bool :=
  (rule.evaluate question.context question.value (rule.memoryAfter asked)).1

theorem memoryAfter_concat (rule : Rule) (asked : List Question) (question : Question) :
    rule.memoryAfter (asked ++ [question]) =
      (rule.evaluate question.context question.value (rule.memoryAfter asked)).2 := by
  simp only [memoryAfter, memoryFrom, List.foldl_append, List.foldl_cons, List.foldl_nil]

/-! Alternatives -/

section Alternatives

variable {left right : Rule} {context : Context} {value : String} {memory after : Memory}

theorem evaluate_or_of_rejected (h : left.evaluate context value memory.left = (.ok false, after)) :
    (or left right).evaluate context value memory =
      ((right.evaluate context value memory.right).1,
        .both after (right.evaluate context value memory.right).2) := by
  simp only [evaluate, h]

theorem evaluate_or_of_ne {found : Except Fault Bool}
    (h : left.evaluate context value memory.left = (found, after)) (hne : found ≠ .ok false) :
    (or left right).evaluate context value memory = (found, .both after memory.right) := by
  simp only [evaluate]
  split
  · rename_i he
    rw [h] at he
    exact absurd (Prod.mk.inj he).1 hne
  · rename_i he
    rw [h] at he
    obtain ⟨rfl, rfl⟩ := Prod.mk.inj he
    rfl

end Alternatives

-- The questions to which a rule says no, with a memory to begin with.
def rejectedFrom (rule : Rule) (memory : Memory) : List Question → List Question
  | [] => []
  | question :: asked =>
    let (found, after) := rule.evaluate question.context question.value memory
    match found with
    | .ok false => question :: rule.rejectedFrom after asked
    | _ => rule.rejectedFrom after asked

-- The questions of a run to which a rule says no.
def rejected (rule : Rule) (asked : List Question) : List Question :=
  rule.rejectedFrom rule.initialMemory asked

-- The right side of an alternative remembers only what the left side rejects.
theorem memoryFrom_or (left right : Rule) (first second : Memory) (asked : List Question) :
    (or left right).memoryFrom (.both first second) asked =
      .both (left.memoryFrom first asked)
        (right.memoryFrom second (left.rejectedFrom first asked)) := by
  induction asked generalizing first second with
  | nil => rfl
  | cons question asked ih =>
      rcases he : left.evaluate question.context question.value first with ⟨found, after⟩
      simp only [memoryFrom, List.foldl_cons, rejectedFrom, he] at ih ⊢
      split
      · rw [evaluate_or_of_rejected he, ih]
        rfl
      · rename_i hne
        rw [evaluate_or_of_ne he hne, ih]
        rfl

theorem memoryAfter_or (left right : Rule) (asked : List Question) :
    (or left right).memoryAfter asked =
      .both (left.memoryAfter asked) (right.memoryAfter (left.rejected asked)) :=
  memoryFrom_or left right left.initialMemory right.initialMemory asked

theorem answer_or_of_rejected {left : Rule} {asked : List Question} {question : Question}
    (h : left.answer asked question = .ok false) (right : Rule) :
    (or left right).answer asked question = right.answer (left.rejected asked) question := by
  have he : left.evaluate question.context question.value (left.memoryAfter asked) = (.ok false, _) :=
    Prod.ext h rfl
  simp only [answer, memoryAfter_or]
  rw [evaluate_or_of_rejected he]
  rfl

theorem answer_or_of_ne {left : Rule} {asked : List Question} {question : Question}
    (h : left.answer asked question ≠ .ok false) (right : Rule) :
    (or left right).answer asked question = left.answer asked question := by
  have he : left.evaluate question.context question.value (left.memoryAfter asked) =
    (left.answer asked question, _) := Prod.ext rfl rfl
  simp only [answer, memoryAfter_or]
  rw [evaluate_or_of_ne he h]
  rfl

end TableSchema.Rule
