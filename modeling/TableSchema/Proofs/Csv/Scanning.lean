import Mathlib
import TableSchema.Csv.Reader

namespace TableSchema.Csv

/-! One character -/

section Step

variable {delimiter c : Char} {record after : Record} {rest : List Char}

theorem scanFrom_of_step (hstep : record.step? delimiter c = some after)
    (hgo : endsLine c rest = false ∨ after.completed? = none) (rows : List Row) :
    scanFrom delimiter record rows (c :: rest) = scanFrom delimiter after rows rest := by
  simp only [scanFrom, hstep]
  rcases hgo with hends | hopen
  · rw [if_neg (by simp [hends])]
  · rw [hopen, ite_self]

theorem scanFrom_of_completed {row : Row} (hstep : record.step? delimiter c = some after)
    (hends : endsLine c rest = true) (hrow : after.completed? = some row) (rows : List Row) :
    scanFrom delimiter record rows (c :: rest) = scanFrom delimiter Record.start (row :: rows) rest := by
  simp only [scanFrom, hstep]
  rw [if_pos hends, hrow]

end Step

-- The rows read before stand in front of those that are read from here on.
theorem scanFrom_eq_append (delimiter : Char) (record : Record) (rows : List Row)
    (text : List Char) :
    scanFrom delimiter record rows text =
      ⟨rows.reverse ++ (scanFrom delimiter record [] text).rows,
        (scanFrom delimiter record [] text).last⟩ := by
  induction text generalizing record rows with
  | nil => simp [scanFrom]
  | cons c text ih =>
      simp only [scanFrom]
      split
      · simp
      · split
        · split
          · rename_i row _
            rw [ih _ (row :: rows), ih _ [row]]
            simp
          · exact ih _ _
        · exact ih _ _

-- What a character does to a reading: it makes a field too large, it completes a row, or
-- the record goes on behind it.
theorem scanFrom_cons_cases (delimiter : Char) (record : Record) (c : Char) (rest : List Char) :
    scanFrom delimiter record [] (c :: rest) = ⟨[], none⟩ ∨
      (∃ after row, record.step? delimiter c = some after ∧ endsLine c rest = true ∧
        after.completed? = some row ∧
          scanFrom delimiter record [] (c :: rest) =
            ⟨row :: (scan delimiter rest).rows, (scan delimiter rest).last⟩) ∨
      ∃ after, record.step? delimiter c = some after ∧
        (endsLine c rest = false ∨ after.completed? = none) ∧
          scanFrom delimiter record [] (c :: rest) = scanFrom delimiter after [] rest := by
  cases hstep : record.step? delimiter c with
  | none =>
      left
      simp only [scanFrom, hstep, List.reverse_nil]
  | some after =>
      right
      cases hends : endsLine c rest with
      | false => exact .inr ⟨after, rfl, .inl rfl, scanFrom_of_step hstep (.inl hends) []⟩
      | true =>
          cases hrow : after.completed? with
          | none => exact .inr ⟨after, rfl, .inr hrow, scanFrom_of_step hstep (.inr hrow) []⟩
          | some row =>
              refine .inl ⟨after, row, rfl, rfl, hrow, ?_⟩
              rw [scanFrom_of_completed hstep hends hrow, scanFrom_eq_append, List.reverse_singleton,
                List.singleton_append]
              rfl

theorem endsLine_newline (rest : List Char) : endsLine '\n' rest = true := rfl

theorem isLineEnd_of_endsLine {c : Char} {rest : List Char} (h : endsLine c rest = true) :
    Record.isLineEnd c = true := by
  simp only [endsLine, Bool.or_eq_true, Bool.and_eq_true] at h
  simp only [Record.isLineEnd, Bool.or_eq_true]
  exact h.imp_right And.left

-- Whether a character ends its line depends on no more than the one behind it.
theorem endsLine_congr (c : Char) {rest other : List Char} (h : rest.head? = other.head?) :
    endsLine c rest = endsLine c other := by
  rw [endsLine, endsLine, h]

-- A line that ends in front of something also ends if less follows.
theorem endsLine_of_part {c : Char} {rest part : List Char} (h : endsLine c rest = true)
    (hpart : part <+: rest) : endsLine c part = true := by
  cases part with
  | nil =>
      have hc := isLineEnd_of_endsLine h
      simpa [endsLine, Record.isLineEnd] using hc
  | cons d part =>
      obtain ⟨more, rfl⟩ := hpart
      exact h

end TableSchema.Csv
