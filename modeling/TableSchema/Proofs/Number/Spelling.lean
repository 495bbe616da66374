import TableSchema.Proofs.Number.Numeral

namespace TableSchema.Number.Decimal

open TableSchema.Text

/-! Characters of a decimal -/

-- The characters that a decimal that is a number is written with.
def IsSpelling (c : Char) : Prop :=
  isAsciiDigit c = true ∨ c ∈ ".E+-Infinity".toList

instance (c : Char) : Decidable (IsSpelling c) :=
  inferInstanceAs (Decidable (_ ∨ _))

theorem IsSpelling.isWordChar {c : Char} (h : IsSpelling c) (hplus : c ≠ '+') :
    Schema.isWordChar c = true := by
  rcases h with h | h
  · exact Schema.isWordChar_of_isAsciiDigit h
  · have hall : (".E+-Infinity".toList.all fun c => c == '+' || Schema.isWordChar c) = true := by decide
    have hc := List.all_eq_true.mp hall c h
    rw [Bool.or_eq_true, beq_iff_eq] at hc
    exact hc.resolve_left hplus

theorem IsSpelling.isAscii {c : Char} (h : IsSpelling c) : isAscii c = true := by
  by_cases hplus : c = '+'
  · rw [hplus]
    decide
  · exact Schema.isAscii_of_isWordChar (h.isWordChar hplus)

theorem IsSpelling.isBlank {c : Char} (h : IsSpelling c) : isBlank c = false := by
  by_cases hplus : c = '+'
  · rw [hplus]
    exact isBlank_eq_false (by decide) (by decide)
  · exact Schema.isBlank_of_isWordChar (h.isWordChar hplus)

theorem IsSpelling.ne_underscore {c : Char} (h : IsSpelling c) : c ≠ '_' := by
  rintro rfl
  rcases h with h | h
  · exact absurd h (by decide)
  · exact absurd h (by decide)

-- All characters of such a text count.
theorem plainText?_eq_self {cs : List Char} (h : ∀ c ∈ cs, IsSpelling c) :
    plainText? cs = some cs := by
  have hfilter : cs.filter (· != '_') = cs :=
    List.filter_eq_self.mpr fun c hc => by simpa using (h c hc).ne_underscore
  rw [plainText?, strip, trim_eq_self fun c hc => (h c hc).isBlank, hfilter]
  clear hfilter
  induction cs with
  | nil => rfl
  | cons c cs ih =>
      obtain ⟨hc, hcs⟩ := List.forall_mem_cons.mp h
      rw [List.mapM_cons, plainChar?, if_pos hc.isAscii, ih hcs]
      rfl

/-! Reading digits -/

-- Digits, and a point with further digits behind it if there are any.
def spell (whole fraction : List Char) : List Char :=
  if fraction = [] then whole else whole ++ '.' :: fraction

theorem takeWhile_digits_append {digits rest : List Char}
    (hdigits : ∀ c ∈ digits, isAsciiDigit c = true) (hrest : ∀ c ∈ rest.head?, isAsciiDigit c = false) :
    (digits ++ rest).takeWhile isAsciiDigit = digits ∧
      (digits ++ rest).dropWhile isAsciiDigit = rest := by
  rw [List.takeWhile_append_of_pos hdigits, List.dropWhile_append_of_pos hdigits]
  cases rest with
  | nil => simp
  | cons c rest => simp [hrest c rfl]

-- The digits behind a point, if there is one, and what follows them.
def splitFraction : List Char → List Char × List Char
  | '.' :: rest => (rest.takeWhile isAsciiDigit, rest.dropWhile isAsciiDigit)
  | rest => ([], rest)

theorem splitFraction_eq_self {cs : List Char} (h : ∀ c ∈ cs.head?, c ≠ '.') :
    splitFraction cs = ([], cs) := by
  fun_cases splitFraction cs with
  | case1 rest => exact absurd rfl (h '.' rfl)
  | case2 => rfl

theorem readFinite?_eq_splitFraction (negative : Bool) (cs : List Char) :
    readFinite? negative cs =
      let whole := cs.takeWhile isAsciiDigit
      let (fraction, rest) := splitFraction (cs.dropWhile isAsciiDigit)
      if whole.isEmpty && fraction.isEmpty then none
      else match readExponent? rest with
        | none => none
        | some exponent =>
          within? negative (digitsOf (whole ++ fraction)) (exponent - fraction.length) :=
  rfl

section Reading

variable {whole fraction mark : List Char} {exponent : Int} (negative : Bool)
  (hwhole : ∀ c ∈ whole, isAsciiDigit c = true) (hfraction : ∀ c ∈ fraction, isAsciiDigit c = true)
  (hmark : ∀ c ∈ mark.head?, isAsciiDigit c = false ∧ c ≠ '.')
  (hexponent : readExponent? mark = some exponent)

include hwhole hmark hexponent

theorem readFinite?_whole (hne : whole ≠ []) :
    readFinite? negative (whole ++ mark) = within? negative (digitsOf whole) exponent := by
  obtain ⟨htake, hdrop⟩ := takeWhile_digits_append hwhole fun c hc => (hmark c hc).1
  have hsplit : splitFraction mark = ([], mark) := splitFraction_eq_self fun c hc => (hmark c hc).2
  simp [readFinite?_eq_splitFraction, htake, hdrop, hsplit, hne, hexponent]

include hfraction

theorem readFinite?_point (hne : whole ++ fraction ≠ []) :
    readFinite? negative (whole ++ '.' :: (fraction ++ mark)) =
      within? negative (digitsOf (whole ++ fraction)) (exponent - fraction.length) := by
  have hpoint : ∀ c ∈ ('.' :: (fraction ++ mark)).head?, isAsciiDigit c = false := by
    simp [isAsciiDigit]
  obtain ⟨htake, hdrop⟩ := takeWhile_digits_append hwhole hpoint
  obtain ⟨hfirst, hrest⟩ := takeWhile_digits_append hfraction fun c hc => (hmark c hc).1
  have hempty : (whole.isEmpty && fraction.isEmpty) = false := by
    rw [← Bool.not_eq_true]
    simpa using hne
  simp only [readFinite?_eq_splitFraction, htake, hdrop, splitFraction, hfirst, hrest, hempty,
    Bool.false_eq_true, if_false, hexponent]

end Reading

theorem readFinite?_spell {whole fraction mark : List Char} {exponent : Int} (negative : Bool)
    (hwhole : ∀ c ∈ whole, isAsciiDigit c = true) (hfraction : ∀ c ∈ fraction, isAsciiDigit c = true)
    (hne : whole ≠ []) (hmark : ∀ c ∈ mark.head?, isAsciiDigit c = false ∧ c ≠ '.')
    (hexponent : readExponent? mark = some exponent) :
    readFinite? negative (spell whole fraction ++ mark) =
      within? negative (digitsOf (whole ++ fraction)) (exponent - fraction.length) := by
  rw [spell]
  split_ifs with hempty
  · rw [readFinite?_whole negative hwhole hmark hexponent hne, hempty]
    simp
  · rw [List.append_assoc, List.cons_append,
      readFinite?_point negative hwhole hfraction hmark hexponent (by simp [hne])]

/-! Writing digits -/

-- The digits with the point behind so many of them, and zeros where it stands
-- outside of them.
def bodyAt (digits : List Char) (point : Int) : List Char :=
  if point ≤ 0 then "0.".toList ++ List.replicate (-point).toNat '0' ++ digits
  else if point.toNat < digits.length then digits.take point.toNat ++ '.' :: digits.drop point.toNat
  else digits

def markOf (scale : Int) : List Char :=
  if scale = 0 then []
  else 'E' :: (if scale < 0 then '-' else '+') :: Nat.toDigits 10 scale.natAbs

-- The place of the point.
def pointOf (digits : List Char) (exponent : Int) : Int :=
  if exponent ≤ 0 ∧ exponent + digits.length > -6 then exponent + digits.length else 1

theorem toList_renderFinite (coefficient : Nat) (exponent : Int) :
    (renderFinite coefficient exponent).toList =
      bodyAt (Nat.toDigits 10 coefficient) (pointOf (Nat.toDigits 10 coefficient) exponent) ++
        markOf (exponent + (Nat.toDigits 10 coefficient).length -
          pointOf (Nat.toDigits 10 coefficient) exponent) := by
  simp only [renderFinite, toList_toString, String.toList_append, String.toList_ofList, bodyAt, markOf,
    pointOf]
  congr 1
  split_ifs <;> simp

-- A point that is not behind all digits splits them into the digits of one number.
theorem bodyAt_eq_spell (coefficient : Nat) {point : Int}
    (hpoint : point ≤ (Nat.toDigits 10 coefficient).length) :
    ∃ whole fraction, bodyAt (Nat.toDigits 10 coefficient) point = spell whole fraction ∧
      (∀ c ∈ whole, isAsciiDigit c = true) ∧ (∀ c ∈ fraction, isAsciiDigit c = true) ∧ whole ≠ [] ∧
      digitsOf (whole ++ fraction) = coefficient ∧
      (fraction.length : Int) = (Nat.toDigits 10 coefficient).length - point := by
  have hdigits : ∀ c ∈ Nat.toDigits 10 coefficient, isAsciiDigit c = true :=
    fun c => isAsciiDigit_of_mem_toDigits
  have hne : Nat.toDigits 10 coefficient ≠ [] := Nat.toDigits_ne_nil
  rw [bodyAt]
  split_ifs with hzero hlast
  · refine ⟨['0'], List.replicate (-point).toNat '0' ++ Nat.toDigits 10 coefficient,
      ?_, ?_, ?_, ?_, ?_, ?_⟩
    · simp [spell]
    · simp [isAsciiDigit]
    · intro c hc
      rcases List.mem_append.mp hc with hc | hc
      · rw [List.eq_of_mem_replicate hc]
        decide
      · exact hdigits c hc
    · simp
    · exact digitsOf_zeros_append ((-point).toNat + 1) coefficient
    · simp only [List.length_append, List.length_replicate]
      omega
  · refine ⟨(Nat.toDigits 10 coefficient).take point.toNat,
      (Nat.toDigits 10 coefficient).drop point.toNat, ?_, ?_, ?_, ?_, ?_, ?_⟩
    · rw [spell, if_neg (by simpa using hlast)]
    · exact fun c hc => hdigits c (List.mem_of_mem_take hc)
    · exact fun c hc => hdigits c (List.mem_of_mem_drop hc)
    · simp only [ne_eq, List.take_eq_nil_iff, not_or]
      exact ⟨by omega, hne⟩
    · rw [List.take_append_drop, digitsOf_toDigits]
    · rw [List.length_drop]
      omega
  · refine ⟨Nat.toDigits 10 coefficient, [], by simp [spell], hdigits, by simp, hne, ?_, ?_⟩
    · rw [List.append_nil, digitsOf_toDigits]
    · rw [List.length_nil]
      omega

theorem readExponent?_markOf (scale : Int) : readExponent? (markOf scale) = some scale := by
  have hall : (Nat.toDigits 10 scale.natAbs).all isAsciiDigit = true :=
    List.all_eq_true.mpr fun c => isAsciiDigit_of_mem_toDigits
  have hempty : (Nat.toDigits 10 scale.natAbs).isEmpty = false := by
    rw [List.isEmpty_eq_false_iff]
    exact Nat.toDigits_ne_nil
  rw [markOf]
  split_ifs with hzero hnegative
  · rw [hzero]
    rfl
  · have hscale : -(scale.natAbs : Int) = scale := by omega
    simp only [readExponent?, splitSign, hall, hempty, digitsOf_toDigits, hscale, beq_self_eq_true,
      Bool.or_true, Bool.not_true, Bool.or_false, Bool.false_eq_true, if_true, if_false]
  · have hscale : (scale.natAbs : Int) = scale := by omega
    simp only [readExponent?, splitSign, hall, hempty, digitsOf_toDigits, hscale, beq_self_eq_true,
      Bool.or_true, Bool.not_true, Bool.or_false, Bool.false_eq_true, if_true, if_false]

theorem head_markOf (scale : Int) :
    ∀ c ∈ (markOf scale).head?, isAsciiDigit c = false ∧ c ≠ '.' := by
  rw [markOf]
  split_ifs <;> simp [isAsciiDigit]

end TableSchema.Number.Decimal
