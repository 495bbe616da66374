import TableSchema.Calendar
import TableSchema.Proofs.Number.Numeral

namespace TableSchema.Calendar

open TableSchema.Text Std.Time

/-! Numbers with a fixed count of digits -/

-- So many digits of ASCII, and the number that they denote.
structure IsNumber (count : Nat) (cs : List Char) (n : Nat) : Prop where
  length_eq : cs.length = count
  isAsciiDigit : ∀ c ∈ cs, isAsciiDigit c = true
  value_eq : Nat.ofDigitChars 10 cs 0 = n

instance (count : Nat) (cs : List Char) (n : Nat) : Decidable (IsNumber count cs n) :=
  decidable_of_iff (cs.length = count ∧ cs.all isAsciiDigit = true ∧ Nat.ofDigitChars 10 cs 0 = n)
    ⟨fun h => ⟨h.1, List.all_eq_true.mp h.2.1, h.2.2⟩,
      fun h => ⟨h.length_eq, List.all_eq_true.mpr h.isAsciiDigit, h.value_eq⟩⟩

theorem IsNumber.lt {count n : Nat} {cs : List Char} (h : IsNumber count cs n) :
    n < 10 ^ count := by
  have hvalue : ofDigits (cs.map fun c => c.toNat - 0x30) = n :=
    (Number.digitsOf_eq_ofDigitChars cs).trans h.value_eq
  have hlength : (cs.map fun c => c.toNat - 0x30).length = count := by
    rw [List.length_map, h.length_eq]
  rw [← hvalue, ← hlength]
  apply Number.ofDigits_lt
  intro value hmem
  obtain ⟨c, hc, rfl⟩ := List.mem_map.mp hmem
  have hdigit := isAsciiDigit_iff.mp (h.isAsciiDigit c hc)
  omega

theorem number?_eq_some_iff {count n : Nat} {cs rest : List Char} :
    number? count cs = some (n, rest) ↔
      ∃ digits, cs = digits ++ rest ∧ IsNumber count digits n := by
  have hvalue : ∀ digits : List Char,
      ofDigits (digits.map fun c => c.toNat - 0x30) = Nat.ofDigitChars 10 digits 0 :=
    Number.digitsOf_eq_ofDigitChars
  simp only [number?, hvalue]
  constructor
  · intro h
    split at h
    · rename_i hdigits
      obtain ⟨hcount, hall⟩ := hdigits
      obtain ⟨hn, hrest⟩ := Prod.mk.inj (Option.some.inj h)
      refine ⟨cs.take count, ?_, hcount, List.all_eq_true.mp hall, hn⟩
      rw [← hrest, List.take_append_drop]
    · cases h
  · rintro ⟨digits, rfl, hnumber⟩
    have htake : (digits ++ rest).take count = digits := List.take_left' hnumber.length_eq
    have hdrop : (digits ++ rest).drop count = rest := List.drop_left' hnumber.length_eq
    have hall : digits.all isAsciiDigit = true := List.all_eq_true.mpr hnumber.isAsciiDigit
    rw [htake, hdrop, if_pos ⟨hnumber.length_eq, hall⟩, hnumber.value_eq]

theorem behind?_eq_some_iff {c : Char} {cs rest : List Char} :
    behind? c cs = some rest ↔ cs = c :: rest := by
  cases cs with
  | nil => simp [behind?]
  | cons d cs =>
      by_cases hc : d = c
      · simp [behind?, hc]
      · simp [behind?, hc]

/-! The calendar -/

theorem isLeap_natCast (year : Nat) : Year.Offset.isLeap (year : Int) = isLeapYear year := by
  have hmod : ∀ count : Nat, (year : Int).tmod count = 0 ↔ year % count = 0 := by
    intro count
    rw [← Int.ofNat_tmod, Int.natCast_eq_zero]
  have hfour : (year : Int).tmod 4 = 0 ↔ year % 4 = 0 := hmod 4
  have hcentury : (year : Int).tmod 100 = 0 ↔ year % 100 = 0 := hmod 100
  have hcycle : (year : Int).tmod 400 = 0 ↔ year % 400 = 0 := hmod 400
  rw [Bool.eq_iff_iff]
  simp only [Year.Offset.isLeap, Year.Offset.toInt, isLeapYear, decide_eq_true_eq, Bool.or_eq_true,
    Bool.and_eq_true, beq_iff_eq, bne_iff_ne, ne_eq, hfour, hcentury, hcycle]
  omega

-- The months are as long as those of the library's calendar.
theorem val_days (year : Nat) (month : Month.Ordinal) :
    (Month.Ordinal.days (isLeapYear year) month).val = daysInMonth year month.val.toNat := by
  obtain ⟨month, hlow, hhigh⟩ := month
  unfold daysInMonth
  cases isLeapYear year
  all_goals interval_cases month <;> rfl

theorem Date.isValid_iff {date : Date} : date.isValid = true ↔ date.year ≤ 9999 ∧
    ∃ plain : PlainDate, 1 ≤ plain.year.toInt ∧ plain.year.toInt.toNat = date.year ∧
      plain.month.val.toNat = date.month ∧ plain.day.val.toNat = date.day := by
  obtain ⟨year, month, day⟩ := date
  simp only [isValid, Bool.and_eq_true, decide_eq_true_eq]
  constructor
  · rintro ⟨⟨⟨⟨⟨hfirst, hlast⟩, hmonth⟩, hmonths⟩, hday⟩, hdays⟩
    have hmost : daysInMonth year month ≤ 31 := by
      unfold daysInMonth
      split_ifs <;> omega
    let m : Month.Ordinal := ⟨month, by omega, by omega⟩
    let d : Day.Ordinal := ⟨day, by omega, by omega⟩
    have hvalid : Year.Offset.Valid (year : Int) m d := by
      have hlength := val_days year m
      rw [← isLeap_natCast] at hlength
      show d.val ≤ (Month.Ordinal.days (Year.Offset.isLeap (year : Int)) m).val
      rw [hlength]
      simp only [m, d, Int.toNat_natCast]
      omega
    refine ⟨hlast, ⟨(year : Int), m, d, hvalid⟩, ?_, ?_, ?_, ?_⟩
    all_goals simp only [Year.Offset.toInt, m, d, Int.toNat_natCast]
    omega
  · rintro ⟨hlast, plain, hfirst, rfl, rfl, rfl⟩
    have hyear : ((plain.year.toInt.toNat : Nat) : Int) = plain.year.toInt :=
      Int.toNat_of_nonneg (Int.le_of_lt hfirst)
    have hlength : plain.day.val ≤ daysInMonth plain.year.toInt.toNat plain.month.val.toNat := by
      rw [← val_days, ← isLeap_natCast, hyear]
      exact plain.valid
    have hmonth := plain.month.property
    have hday := plain.day.property
    omega

/-! Dates as text -/

-- The text is the day, with its year, month and number in four, two and two digits. Four
-- digits hold the years up to 9999.
inductive Denotes : List Char → PlainDate → Prop
  | intro {year month number : List Char} {day : PlainDate} (hfirst : 1 ≤ day.year.toInt)
      (hyear : IsNumber 4 year day.year.toInt.toNat) (hmonth : IsNumber 2 month day.month.val.toNat)
      (hnumber : IsNumber 2 number day.day.val.toNat) :
      Denotes (year ++ '-' :: (month ++ '-' :: number)) day

theorem Date.read?_eq_some_iff {cs rest : List Char} {date : Date} :
    Date.read? cs = some (date, rest) ↔ ∃ year month number,
      cs = year ++ '-' :: (month ++ '-' :: (number ++ rest)) ∧ IsNumber 4 year date.year ∧
        IsNumber 2 month date.month ∧ IsNumber 2 number date.day := by
  obtain ⟨y, m, d⟩ := date
  simp only [Date.read?, Option.bind_eq_bind, Option.bind_eq_some_iff, Prod.exists,
    number?_eq_some_iff, behind?_eq_some_iff]
  constructor
  · rintro ⟨_, _, ⟨year, rfl, hyear⟩, _, rfl, _, _, ⟨month, rfl, hmonth⟩, _, rfl, _, _,
      ⟨number, rfl, hnumber⟩, hdate⟩
    cases hdate
    exact ⟨year, month, number, rfl, hyear, hmonth, hnumber⟩
  · rintro ⟨year, month, number, rfl, hyear, hmonth, hnumber⟩
    exact ⟨y, _, ⟨year, rfl, hyear⟩, _, rfl, m, _, ⟨month, rfl, hmonth⟩, _, rfl, d, rest,
      ⟨number, rfl, hnumber⟩, rfl⟩

-- A date in front of a text, with all that makes it a day of the calendar.
theorem exists_read?_iff {cs rest : List Char} :
    (∃ date, Date.read? cs = some (date, rest) ∧ date.isValid = true) ↔
      ∃ front day, cs = front ++ rest ∧ Denotes front day := by
  simp only [Date.read?_eq_some_iff, Date.isValid_iff]
  constructor
  · rintro ⟨date, ⟨year, month, number, rfl, hyear, hmonth, hnumber⟩, -, day, hfirst, heq⟩
    rw [← heq.1] at hyear
    rw [← heq.2.1] at hmonth
    rw [← heq.2.2] at hnumber
    refine ⟨_, day, ?_, .intro hfirst hyear hmonth hnumber⟩
    simp only [List.append_assoc, List.cons_append]
  · rintro ⟨_, day, rfl, @⟨year, month, number, _, hfirst, hyear, hmonth, hnumber⟩⟩
    have hlast : day.year.toInt.toNat < 10 ^ 4 := hyear.lt
    refine ⟨⟨day.year.toInt.toNat, day.month.val.toNat, day.day.val.toNat⟩,
      ⟨year, month, number, ?_, hyear, hmonth, hnumber⟩, Nat.le_of_lt_succ hlast, day, hfirst, rfl,
      rfl, rfl⟩
    simp only [List.append_assoc, List.cons_append]

-- The dates that are accepted are the days of the calendar from year 1 to year 9999.
theorem isDate_iff {cs : List Char} : isDate cs = true ↔ ∃ day, Denotes cs day := by
  have hwhole : (∃ date, Date.read? cs = some (date, []) ∧ date.isValid = true) ↔
      ∃ day, Denotes cs day := by
    rw [exists_read?_iff]
    simp only [List.append_nil, exists_eq_left', exists_and_left]
  rw [← hwhole]
  unfold isDate
  constructor
  · intro h
    split at h
    · exact ⟨_, ‹_›, h⟩
    · cases h
  · rintro ⟨date, hread, hvalid⟩
    rw [hread]
    exact hvalid

end TableSchema.Calendar
