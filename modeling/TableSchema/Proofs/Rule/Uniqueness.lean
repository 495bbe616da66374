import TableSchema.Proofs.Rule.Answers

namespace TableSchema.Rule

-- What uniqueness compares of a cell.
def Question.key (question : Question) : String :=
  question.context.fold question.value

theorem contains_record (key other : String) (values : Std.HashSet String) :
    (record key values).2.contains other = (values.contains other || other == key) := by
  simp only [record]
  split
  · rename_i hseen
    by_cases h : other = key
    · simp [h, hseen]
    · simp [h]
  · rw [Std.HashSet.contains_insert, Bool.or_comm, Bool.beq_comm]

theorem contains_memoryFrom_unique (memory : Memory) (asked : List Question) (key : String) :
    (unique.memoryFrom memory asked).values.contains key =
      (memory.values.contains key || (asked.map Question.key).contains key) := by
  induction asked generalizing memory with
  | nil => simp [memoryFrom]
  | cons question asked ih =>
      have hfirst : (unique.evaluate question.context question.value memory).2.values =
          (record question.key memory.values).2 := rfl
      have hrest : unique.memoryFrom memory (question :: asked) =
          unique.memoryFrom (unique.evaluate question.context question.value memory).2 asked := rfl
      rw [hrest, ih, hfirst, contains_record, List.map_cons, List.contains_cons, Bool.or_assoc]

-- A cell is unique if none of the cells before it has its key.
theorem answer_unique (asked : List Question) (question : Question) :
    unique.answer asked question = .ok (!(asked.map Question.key).contains question.key) := by
  have hseen : (unique.memoryAfter asked).values.contains question.key =
      (asked.map Question.key).contains question.key := by
    rw [memoryAfter, contains_memoryFrom_unique]
    simp [initialMemory, Memory.values]
  have hanswer : unique.answer asked question =
      .ok (record question.key (unique.memoryAfter asked).values).1 := rfl
  rw [hanswer, record]
  split
  · rename_i h
    rw [← hseen, h, Bool.not_true]
  · rename_i h
    rw [← hseen, Bool.eq_false_iff.mpr h, Bool.not_false]

end TableSchema.Rule
