import Mathlib
import TableSchema.Schema.Parser

namespace TableSchema.Schema

namespace Parse

variable {α β : Type}

@[simp] theorem result_pure (value : α) : (pure value : Parse α).result = .ok value := rfl

@[simp] theorem result_note (step : Step) : (note step).result = .ok () := rfl

@[simp] theorem result_abort (fault : ParseFault) : (abort fault : Parse α).result = .error fault := rfl

@[simp] theorem result_fail (cause : Cause) (token : Token) :
    (fail cause token : Parse α).result =
      .error (.syntaxError { cause, line := token.line, column := token.column }) := rfl

theorem result_bind_of_ok {first : Parse α} {value : α} (h : first.result = .ok value)
    (next : α → Parse β) : (first >>= next).result = (next value).result := by
  change (Parse.bind first next).result = _
  simp only [Parse.bind, h]

theorem result_bind_of_error {first : Parse α} {fault : ParseFault}
    (h : first.result = .error fault) (next : α → Parse β) :
    (first >>= next).result = .error fault := by
  change (Parse.bind first next).result = _
  simp only [Parse.bind, h]

@[simp] theorem result_note_bind (step : Step) (next : Unit → Parse β) :
    (note step >>= next).result = (next ()).result :=
  result_bind_of_ok rfl next

-- Two parts of the parser succeed together if the second one does on the value
-- of the first one.
@[simp] theorem result_bind_eq_ok_iff {first : Parse α} {next : α → Parse β} {value : β} :
    (first >>= next).result = .ok value ↔
      ∃ middle, first.result = .ok middle ∧ (next middle).result = .ok value := by
  cases h : first.result with
  | error fault => simp [result_bind_of_error h]
  | ok middle => simp [result_bind_of_ok h]

-- They fail where the first one fails, or else where the second one does.
theorem result_bind_eq_error_iff {first : Parse α} {next : α → Parse β} {fault : ParseFault} :
    (first >>= next).result = .error fault ↔
      first.result = .error fault ∨
        ∃ middle, first.result = .ok middle ∧ (next middle).result = .error fault := by
  cases h : first.result with
  | error other => simp [result_bind_of_error h]
  | ok middle => simp [result_bind_of_ok h]

-- If the second one cannot fail, the first one did.
theorem result_eq_error_of_bind {first : Parse α} {next : α → Parse β} {fault : ParseFault}
    (h : (first >>= next).result = .error fault)
    (hnext : ∀ middle, ∃ value, (next middle).result = .ok value) :
    first.result = .error fault := by
  rcases result_bind_eq_error_iff.mp h with h | ⟨middle, -, h⟩
  · exact h
  · obtain ⟨value, hvalue⟩ := hnext middle
    cases hvalue.symm.trans h

end Parse

end TableSchema.Schema
