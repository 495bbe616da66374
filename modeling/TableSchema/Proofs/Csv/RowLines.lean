import TableSchema.Proofs.Csv.ReadFaults
import TableSchema.Proofs.Csv.Scanning

namespace TableSchema.Csv

open TableSchema.Encoding

/-! Characters in cells -/

-- How often a character stands in the cells of a row.
def rowCount (x : Char) (row : Row) : Nat :=
  (row.map fun cell => cell.toList.count x).sum

def tableCount (x : Char) (rows : List Row) : Nat :=
  (rows.map (rowCount x)).sum

@[simp] theorem tableCount_nil (x : Char) : tableCount x [] = 0 := rfl

@[simp] theorem tableCount_cons (x : Char) (row : Row) (rows : List Row) :
    tableCount x (row :: rows) = rowCount x row + tableCount x rows := by
  simp [tableCount]

@[simp] theorem tableCount_append (x : Char) (rows others : List Row) :
    tableCount x (rows ++ others) = tableCount x rows + tableCount x others := by
  simp [tableCount]

theorem tableCount_eq_zero_iff {x : Char} {rows : List Row} :
    tableCount x rows = 0 ↔ ∀ row ∈ rows, ∀ cell ∈ row, x ∉ cell.toList := by
  simp only [tableCount, rowCount, List.sum_eq_zero_iff, List.mem_map, forall_exists_index, and_imp,
    forall_apply_eq_imp_iff₂, List.count_eq_zero]

namespace Record

-- The cells of a record are its fields and the one that is being read.
def count (x : Char) (record : Record) : Nat :=
  rowCount x record.fields + record.current.count x

-- Where no field has begun, none is being read.
def Tidy (record : Record) : Prop :=
  record.phase = .recordStart ∨ record.phase = .ended → record.current = []

variable {delimiter c : Char} {record after : Record}

theorem tidy_start : start.Tidy := fun _ => rfl

@[simp] theorem count_start (x : Char) : start.count x = 0 := rfl

@[simp] theorem count_saveField (record : Record) (phase : Phase) (x : Char) :
    (record.saveField phase).count x = record.count x := by
  simp [count, saveField, rowCount, Nat.add_comm]

theorem tidy_saveField (record : Record) (phase : Phase) : (record.saveField phase).Tidy :=
  fun _ => rfl

theorem rowCount_row (record : Record) (x : Char) :
    rowCount x record.row = rowCount x record.fields := by
  simp [rowCount, row]

-- A character is passed over where no field has begun or as a quote, or it ends a field,
-- or it belongs to one.
theorem step?_cases (h : record.step? delimiter c = some after) :
    (after = { record with phase := .ended } ∧
        (record.phase = .recordStart ∨ record.phase = .ended)) ∨
      (after = { record with phase := after.phase } ∧ isLineEnd c = false ∧
        (after.phase = .inQuotes ∨ after.phase = .afterQuote)) ∨
      (after = record.saveField after.phase ∧ (after.phase = .ended ∨ after.phase = .fieldStart)) ∨
      (record.addChar? after.phase c = some after ∧
        (after.phase = .inQuotes ∨ after.phase = .inField ∧ isLineEnd c = false)) := by
  obtain ⟨phase, fields, current, size⟩ := record
  have hquote : isLineEnd quote = false := rfl
  cases phase <;> simp only [step?, beginField?, addChar?, saveField] at h ⊢ <;> grind

theorem tidy_step (htidy : record.Tidy) (h : record.step? delimiter c = some after) :
    after.Tidy := by
  rcases step?_cases h with ⟨rfl, hphase⟩ | ⟨-, -, hphase⟩ | ⟨hsaved, -⟩ | ⟨-, hphase⟩
  · exact fun _ => htidy hphase
  · rintro (hstart | hended) <;> simp_all
  · rw [hsaved]
    exact tidy_saveField record after.phase
  · rintro (hstart | hended) <;> simp_all

-- The end of a line is kept in a cell exactly within quotes.
theorem count_step {x : Char} (hx : isLineEnd x = true)
    (h : record.step? delimiter c = some after) :
    after.count x = record.count x + if c = x ∧ after.phase = .inQuotes then 1 else 0 := by
  have hne : isLineEnd c = false → c ≠ x := by
    rintro hc rfl
    rw [hx] at hc
    cases hc
  rcases step?_cases h with ⟨rfl, -⟩ | ⟨hpassed, hc, -⟩ | ⟨hsaved, hphase⟩ | ⟨hadded, hphase⟩
  · simp [count]
  · rw [hpassed, if_neg (fun hboth => hne hc hboth.1), Nat.add_zero]
    rfl
  · have hopen : after.phase ≠ .inQuotes := by
      rcases hphase with hphase | hphase <;> rw [hphase] <;> decide
    rw [hsaved, count_saveField, if_neg (fun hboth => hopen hboth.2), Nat.add_zero]
  · have hgrown : after.count x = record.count x + if c = x then 1 else 0 := by
      simp only [addChar?] at hadded
      split at hadded
      · cases hadded
      · rw [← Option.some.inj hadded, count, count, List.count_cons, Nat.add_assoc]
        simp only [beq_iff_eq]
    rw [hgrown]
    rcases hphase with hphase | ⟨hphase, hc⟩
    · simp [hphase]
    · simp [hphase, hne hc]

theorem count_of_current_eq_nil (h : record.current = []) (x : Char) :
    record.count x = rowCount x record.row := by
  rw [count, h, rowCount_row, List.count_nil, Nat.add_zero]

-- A row that is complete has all the characters of its record.
theorem rowCount_of_completed? {row : Row} (htidy : record.Tidy) (h : record.completed? = some row)
    (x : Char) : rowCount x row = record.count x ∧ record.phase ≠ .inQuotes := by
  have hsaved : rowCount x (record.saveField .ended).row = record.count x := by
    rw [← count_of_current_eq_nil rfl, count_saveField]
  cases hphase : record.phase <;> simp only [completed?, hphase] at h <;> cases h
  case recordStart => exact ⟨(count_of_current_eq_nil (htidy (.inl hphase)) x).symm, nofun⟩
  case ended => exact ⟨(count_of_current_eq_nil (htidy (.inr hphase)) x).symm, nofun⟩
  all_goals exact ⟨hsaved, nofun⟩

theorem phase_of_completed?_eq_none (h : record.completed? = none) : record.phase = .inQuotes := by
  cases hphase : record.phase <;> simp only [completed?, hphase] at h <;> first | rfl | cases h

theorem count_of_remaining? (htidy : record.Tidy) (x : Char) :
    tableCount x record.remaining?.toList ≤ record.count x := by
  have hsaved : tableCount x [(record.saveField .ended).row] = record.count x := by
    rw [tableCount_cons, tableCount_nil, Nat.add_zero, ← count_of_current_eq_nil rfl, count_saveField]
  cases hphase : record.phase <;> simp only [remaining?, hphase, Option.toList_some]
  case recordStart => exact Nat.zero_le _
  case ended =>
    rw [tableCount_cons, tableCount_nil, Nat.add_zero,
      count_of_current_eq_nil (htidy (.inr hphase)) x]
  all_goals exact hsaved.le

-- The end of a line that completes a row is in none of its cells.
theorem rowCount_of_step {x : Char} {row : Row} (hx : isLineEnd x = true) (htidy : record.Tidy)
    (h : record.step? delimiter c = some after) (hrow : after.completed? = some row) :
    rowCount x row = record.count x := by
  obtain ⟨hall, hphase⟩ := rowCount_of_completed? (tidy_step htidy h) hrow x
  rw [hall, count_step hx h, if_neg (fun hboth => hphase hboth.2), Nat.add_zero]

-- A line feed that does not end the row is in a cell.
theorem count_of_open {text : List Char} (h : record.step? delimiter c = some after)
    (hopen : endsLine c text = false ∨ after.completed? = none) :
    after.count '\n' = record.count '\n' + if c = '\n' then 1 else 0 := by
  have hquoted : c = '\n' → after.phase = .inQuotes := by
    rintro rfl
    rcases hopen with hends | hnone
    · rw [endsLine_newline] at hends
      cases hends
    · exact phase_of_completed?_eq_none hnone
  rw [count_step rfl h]
  simp only [and_iff_left_of_imp hquoted]

end Record

/-! Line ends outside of cells -/

-- The line feeds and carriage returns of a text that stand in no cell. No row takes more
-- than one of these line feeds, and none goes without either of them.
theorem count_scanFrom {delimiter : Char} {record last : Record} {text : List Char}
    {rows : List Row} (htidy : record.Tidy)
    (h : scanFrom delimiter record [] text = ⟨rows, some last⟩) :
    last.Tidy ∧ ∃ feeds returns,
      tableCount '\n' rows + last.count '\n' + feeds = record.count '\n' + text.count '\n' ∧
      tableCount '\r' rows + last.count '\r' + returns = record.count '\r' + text.count '\r' ∧
      feeds ≤ rows.length ∧ rows.length ≤ feeds + returns := by
  induction text generalizing record rows with
  | nil =>
      obtain ⟨rfl, hlast⟩ := Scan.mk.inj h
      obtain rfl := Option.some.inj hlast
      exact ⟨htidy, 0, 0, by simp, by simp, by simp, by simp⟩
  | cons c text ih =>
      have hcount : ∀ x, (c :: text).count x = (if c = x then 1 else 0) + text.count x := by
        intro x
        rw [List.count_cons, Nat.add_comm]
        simp only [beq_iff_eq]
      rw [hcount, hcount]
      rcases scanFrom_cons_cases delimiter record c text with
        hlarge | ⟨after, row, hstep, hends, hrow, hscan⟩ | ⟨after, hstep, hopen, hscan⟩
      · rw [hlarge] at h
        cases h
      · rw [hscan] at h
        obtain ⟨rfl, hlast⟩ := Scan.mk.inj h
        have hrest : scanFrom delimiter Record.start [] text =
            ⟨(scan delimiter text).rows, some last⟩ := congrArg (Scan.mk _) hlast
        obtain ⟨hlastTidy, feeds, returns, hfeeds, hreturns, hle, hge⟩ := ih Record.tidy_start hrest
        have hc : c = '\n' ∨ c = '\r' := by
          simpa [Record.isLineEnd] using isLineEnd_of_endsLine hends
        refine ⟨hlastTidy, feeds + if c = '\n' then 1 else 0, returns + if c = '\r' then 1 else 0, ?_⟩
        rw [tableCount_cons, tableCount_cons, Record.rowCount_of_step rfl htidy hstep hrow,
          Record.rowCount_of_step rfl htidy hstep hrow, List.length_cons]
        rw [Record.count_start] at hfeeds hreturns
        rcases hc with rfl | rfl
        · simp only [if_true, Char.reduceEq, if_false]
          omega
        · simp only [if_true, Char.reduceEq, if_false]
          omega
      · rw [hscan] at h
        obtain ⟨hlastTidy, feeds, returns, hfeeds, hreturns, hle, hge⟩ :=
          ih (Record.tidy_step htidy hstep) h
        have hreturn := Record.count_step (x := '\r') rfl hstep
        refine ⟨hlastTidy, feeds, returns + if c = '\r' ∧ after.phase ≠ .inQuotes then 1 else 0, ?_⟩
        rw [Record.count_of_open hstep hopen] at hfeeds
        rw [hreturn] at hreturns
        refine ⟨by omega, ?_, hle, by omega⟩
        by_cases hc : c = '\r' <;> by_cases hphase : after.phase = .inQuotes <;>
          simp only [hc, hphase, ne_eq, not_true_eq_false, not_false_eq_true, and_self, and_true,
            and_false, if_true, if_false] at hreturns ⊢ <;> omega

/-! Where rows begin -/

section Front

variable {delimiter : Char} {last : Option Record}

-- The first row takes a front of the text. What may stand behind it is no more than
-- what does: a line feed would belong to a carriage return in front of it.
theorem exists_first_row {record : Record} {text : List Char} {row : Row} {rows : List Row}
    (h : scanFrom delimiter record [] text = ⟨row :: rows, last⟩) :
    ∃ front back, text = front ++ back ∧ front ≠ [] ∧ scan delimiter back = ⟨rows, last⟩ ∧
      ∀ more, more <+: back → scanFrom delimiter record [] (front ++ more) =
        ⟨row :: (scan delimiter more).rows, (scan delimiter more).last⟩ := by
  induction text generalizing record with
  | nil => cases h
  | cons c text ih =>
      rcases scanFrom_cons_cases delimiter record c text with
        hlarge | ⟨after, found, hstep, hends, hfound, hscan⟩ | ⟨after, hstep, hopen, hscan⟩
      · rw [hlarge] at h
        cases h
      · rw [hscan] at h
        obtain ⟨hrows, hlast⟩ := Scan.mk.inj h
        obtain ⟨rfl, rfl⟩ := List.cons.inj hrows
        refine ⟨[c], text, rfl, List.cons_ne_nil _ _, by rw [← hlast], fun more hmore => ?_⟩
        rw [List.singleton_append,
          scanFrom_of_completed hstep (endsLine_of_part hends hmore) hfound, scanFrom_eq_append,
          List.reverse_singleton, List.singleton_append]
        rfl
      · rw [hscan] at h
        obtain ⟨front, back, rfl, hfront, hback, hall⟩ := ih h
        refine ⟨c :: front, back, rfl, List.cons_ne_nil _ _, hback, fun more hmore => ?_⟩
        have hhead : (front ++ more).head? = (front ++ back).head? := by
          rw [List.head?_append_of_ne_nil _ hfront, List.head?_append_of_ne_nil _ hfront]
        rw [List.cons_append, scanFrom_of_step hstep (by rwa [endsLine_congr c hhead]), hall more hmore]

-- The first rows take a front of the text.
theorem exists_first_rows {text : List Char} {rows : List Row}
    (h : scan delimiter text = ⟨rows, last⟩) {index : Nat} (hindex : index ≤ rows.length) :
    ∃ front back, text = front ++ back ∧ scan delimiter back = ⟨rows.drop index, last⟩ ∧
      ∀ more, more <+: back → scan delimiter (front ++ more) =
        ⟨rows.take index ++ (scan delimiter more).rows, (scan delimiter more).last⟩ := by
  induction index generalizing text rows with
  | zero => exact ⟨[], text, rfl, h, fun more _ => rfl⟩
  | succ index ih =>
      cases rows with
      | nil => cases hindex
      | cons row rows =>
          obtain ⟨first, text, rfl, -, htext, hfirst⟩ := exists_first_row h
          obtain ⟨front, back, rfl, hback, hall⟩ := ih htext (Nat.le_of_succ_le_succ hindex)
          refine ⟨first ++ front, back, (List.append_assoc _ _ _).symm, hback, fun more hmore => ?_⟩
          rw [List.append_assoc]
          refine (hfirst _ ((List.prefix_append_right_inj _).mpr hmore)).trans ?_
          rw [hall more hmore]
          rfl

end Front

-- What a text is read as to its end, unless a field grows too large.
def read? (delimiter : Char) (text : List Char) : Option (List Row) :=
  (scan delimiter text).last.map fun last =>
    (scan delimiter text).rows ++ last.remaining?.toList

-- A row begins on the line of its first character: what stands in front of it is read
-- as the rows before, and what follows as this row and those behind it.
def StartsOn (delimiter : Char) (text : List Char) (index line : Nat) : Prop :=
  ∃ front back earlier later, text = front ++ back ∧ line = front.count '\n' + 1 ∧
    scan delimiter front = ⟨earlier, some Record.start⟩ ∧ earlier.length = index ∧
    read? delimiter back = some later ∧ read? delimiter text = some (earlier ++ later)

theorem read?_eq_some_iff {delimiter : Char} {text : List Char} {rows : List Row} :
    read? delimiter text = some rows ↔ ∃ found last, scan delimiter text = ⟨found, some last⟩ ∧
      rows = found ++ last.remaining?.toList := by
  simp only [read?, Option.map_eq_some_iff]
  constructor
  · rintro ⟨last, hlast, rfl⟩
    exact ⟨_, last, by rw [← hlast], rfl⟩
  · rintro ⟨found, last, hscan, rfl⟩
    exact ⟨last, by rw [hscan], by rw [hscan]⟩

-- No carriage return is read from anywhere but the text.
theorem tableCount_le_of_read? {delimiter : Char} {text : List Char} {rows : List Row}
    (h : read? delimiter text = some rows) : tableCount '\r' rows ≤ text.count '\r' := by
  obtain ⟨found, last, hscan, rfl⟩ := read?_eq_some_iff.mp h
  obtain ⟨htidy, _, _, -, hreturns, -⟩ := count_scanFrom Record.tidy_start hscan
  have hremaining := Record.count_of_remaining? htidy '\r'
  rw [Record.count_start] at hreturns
  rw [tableCount_append]
  omega

theorem exists_startsOn {delimiter : Char} {text : List Char} {rows : List Row}
    (h : read? delimiter text = some rows) {index : Nat} (hindex : index < rows.length) :
    ∃ line, StartsOn delimiter text index line := by
  obtain ⟨found, last, hscan, rfl⟩ := read?_eq_some_iff.mp h
  have hremaining : last.remaining?.toList.length ≤ 1 := Option.length_toList_le
  have hfound : index ≤ found.length := by
    rw [List.length_append] at hindex
    omega
  obtain ⟨front, back, rfl, hback, hall⟩ := exists_first_rows hscan hfound
  have hfront := hall [] (List.nil_prefix)
  rw [List.append_nil] at hfront
  refine ⟨_, front, back, found.take index, found.drop index ++ last.remaining?.toList, rfl, rfl, ?_,
    List.length_take_of_le hfound, read?_eq_some_iff.mpr ⟨_, last, hback, rfl⟩, ?_⟩
  · rw [hfront]
    exact congrArg (Scan.mk · _) (List.append_nil _)
  · rw [h, ← List.append_assoc, List.take_append_drop]

-- If all lines end with a line feed alone, a row begins on the line with its number,
-- behind the line feeds in the cells before it.
theorem startsOn_iff {delimiter : Char} {text : List Char} {rows : List Row}
    (h : read? delimiter text = some rows) (hreturn : text.count '\r' = tableCount '\r' rows)
    {index : Nat} (hindex : index < rows.length) {line : Nat} :
    StartsOn delimiter text index line ↔
      line = index + 1 + tableCount '\n' (rows.take index) := by
  have hline : ∀ line, StartsOn delimiter text index line →
      line = index + 1 + tableCount '\n' (rows.take index) := by
    rintro line ⟨front, back, earlier, later, rfl, rfl, hfront, rfl, hback, htext⟩
    obtain rfl : rows = earlier ++ later := Option.some.inj (h.symm.trans htext)
    obtain ⟨-, feeds, returns, hfeeds, hreturns, hle, hge⟩ :=
      count_scanFrom Record.tidy_start hfront
    -- No carriage return stands between the rows in front.
    have hlater := tableCount_le_of_read? hback
    rw [List.count_append, tableCount_append] at hreturn
    rw [Record.count_start] at hfeeds hreturns
    rw [List.take_left]
    omega
  constructor
  · exact hline line
  · rintro rfl
    obtain ⟨line, hstarts⟩ := exists_startsOn h hindex
    rwa [← hline line hstarts]

/-! Files -/

namespace Source

-- What is decoded of a file.
def text (source : Source) : List Char :=
  match source.stream with
  | .error _ => []
  | .ok stream => stream.text

theorem read?_text {source : Source} {delimiter : Char}
    (hdelimiter : source.delimiter.toList = [delimiter]) (h : source.rows.fault = none) :
    read? delimiter source.text = some source.rows.rows := by
  cases hstream : source.stream with
  | error fault => simp [rows, hstream] at h
  | ok stream =>
      rw [rows_of_stream hstream hdelimiter] at h ⊢
      simp only [text, hstream]
      simp only [rowsOfStream] at h ⊢
      split at h
      · cases h
      · cases h
      · rename_i last hlast _
        rw [read?, hlast]
        rfl

end Source

end TableSchema.Csv
