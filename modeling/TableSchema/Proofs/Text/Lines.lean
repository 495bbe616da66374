import Mathlib
import TableSchema.Text.Lines

namespace TableSchema.Text

-- No line holds what ends a line.
theorem isLineBreak_of_mem_splitLinesFrom {line cs found : List Char}
    (hline : ∀ c ∈ line, isLineBreak c = false) (h : found ∈ splitLinesFrom line cs) :
    ∀ c ∈ found, isLineBreak c = false := by
  fun_induction splitLinesFrom line cs with
  | case1 => cases h
  | case2 line _ =>
      obtain rfl := List.mem_singleton.mp h
      simpa using hline
  | case3 line rest ih =>
      rcases List.mem_cons.mp h with rfl | h
      · simpa using hline
      · exact ih nofun h
  | case4 line c rest _ hc ih =>
      rcases List.mem_cons.mp h with rfl | h
      · simpa using hline
      · exact ih nofun h
  | case5 line c rest _ hc ih =>
      exact ih (List.forall_mem_cons.mpr ⟨by simpa using hc, hline⟩) h

theorem isLineBreak_of_mem_splitLines {cs found : List Char} (h : found ∈ splitLines cs) :
    ∀ c ∈ found, isLineBreak c = false :=
  isLineBreak_of_mem_splitLinesFrom (List.forall_mem_nil _) h

theorem splitLinesFrom_nil {line : List Char} (h : line ≠ []) :
    splitLinesFrom line [] = [line.reverse] := by
  rw [splitLinesFrom.eq_def]
  exact if_neg (by simpa using h)

theorem splitLinesFrom_cons {line rest : List Char} {c : Char} (hc : isLineBreak c = false) :
    splitLinesFrom line (c :: rest) = splitLinesFrom (c :: line) rest := by
  rw [splitLinesFrom.eq_def]
  split
  · rename_i h
    cases h
  · rename_i h
    obtain rfl := (List.cons.inj h).1
    exact absurd hc (by decide)
  · rename_i h
    obtain ⟨rfl, rfl⟩ := List.cons.inj h
    rw [if_neg (by simp [hc])]

-- The current line grows up to the next break.
theorem splitLinesFrom_append {line cs rest : List Char} (hcs : ∀ c ∈ cs, isLineBreak c = false) :
    splitLinesFrom line (cs ++ rest) = splitLinesFrom (cs.reverse ++ line) rest := by
  induction cs generalizing line with
  | nil => rfl
  | cons c cs ih =>
      obtain ⟨hc, hcs⟩ := List.forall_mem_cons.mp hcs
      rw [List.cons_append, splitLinesFrom_cons hc, ih hcs]
      simp

theorem splitLinesFrom_newline (line rest : List Char) :
    splitLinesFrom line ('\n' :: rest) = line.reverse :: splitLinesFrom [] rest := by
  rw [splitLinesFrom.eq_def]
  split
  · rename_i h
    cases h
  · rename_i h
    cases h
  · rename_i h
    obtain ⟨rfl, rfl⟩ := List.cons.inj h
    rw [if_pos (by decide)]

-- A line ends in the same place, however its end is written.
theorem splitLinesFrom_unifyLineEnds (line cs : List Char) :
    splitLinesFrom line (unifyLineEnds cs) = splitLinesFrom line cs := by
  fun_induction unifyLineEnds cs generalizing line with
  | case1 => rfl
  | case2 rest ih => rw [splitLinesFrom_newline, splitLinesFrom, ih]
  | case3 rest hlone ih =>
      rw [splitLinesFrom_newline, ih, splitLinesFrom.eq_3 _ _ _ fun other _ => hlone other,
        if_pos (by decide)]
  | case4 c rest _ hc ih =>
      -- No other break is one half of a line end.
      have halone : ∀ others : List Char, splitLinesFrom line (c :: others) =
          if isLineBreak c = true then line.reverse :: splitLinesFrom [] others
          else splitLinesFrom (c :: line) others :=
        fun others => splitLinesFrom.eq_3 _ _ _ fun _ h _ => hc h
      rw [halone, halone, ih, ih]

theorem splitLines_unifyLineEnds (cs : List Char) :
    splitLines (unifyLineEnds cs) = splitLines cs :=
  splitLinesFrom_unifyLineEnds [] cs

-- The byte order mark is no part of a line end.
theorem dropByteOrderMark_unifyLineEnds (cs : List Char) :
    dropByteOrderMark (unifyLineEnds cs) = unifyLineEnds (dropByteOrderMark cs) := by
  have hreturn : ('\r' == byteOrderMark) = false := by decide
  have hfeed : ('\n' == byteOrderMark) = false := by decide
  fun_cases unifyLineEnds cs with
  | case1 => rfl
  | case2 rest =>
      simp only [dropByteOrderMark, hreturn, hfeed, unifyLineEnds, Bool.false_eq_true, if_false]
  | case3 rest hlone =>
      simp only [dropByteOrderMark, hreturn, hfeed, Bool.false_eq_true, if_false]
      rw [unifyLineEnds.eq_3 _ hlone]
  | case4 c rest hpair hc =>
      by_cases hmark : (c == byteOrderMark) = true
      · simp only [dropByteOrderMark, hmark, if_true]
      · simp only [dropByteOrderMark, hmark, Bool.false_eq_true, if_false]
        rw [unifyLineEnds.eq_4 _ _ hpair hc]

-- Lines that all have their ends.
theorem splitLines_flatMap {lines : List (List Char)}
    (hunbroken : ∀ line ∈ lines, ∀ c ∈ line, isLineBreak c = false) :
    splitLines (lines.flatMap fun line => line ++ ['\n']) = lines := by
  rw [splitLines]
  induction lines with
  | nil => rfl
  | cons line lines ih =>
      obtain ⟨hline, hlines⟩ := List.forall_mem_cons.mp hunbroken
      rw [List.flatMap_cons, List.append_assoc, splitLinesFrom_append hline, List.singleton_append,
        splitLinesFrom_newline, ih hlines]
      simp

theorem splitLines_intercalate {lines : List (List Char)} (hne : ∀ line ∈ lines, line ≠ [])
    (hunbroken : ∀ line ∈ lines, ∀ c ∈ line, isLineBreak c = false) :
    splitLines (['\n'].intercalate lines) = lines := by
  rw [splitLines]
  induction lines with
  | nil => rfl
  | cons line lines ih =>
      obtain ⟨hline, hlines⟩ := List.forall_mem_cons.mp hunbroken
      obtain ⟨hfirst, hothers⟩ := List.forall_mem_cons.mp hne
      cases lines with
      | nil =>
          rw [List.intercalate_singleton, ← List.append_nil line, splitLinesFrom_append hline,
            splitLinesFrom_nil (by simpa using hfirst)]
          simp
      | cons next lines =>
          rw [List.intercalate_cons_cons, List.append_assoc, splitLinesFrom_append hline,
            List.singleton_append, splitLinesFrom_newline, ih hothers hlines]
          simp

end TableSchema.Text
