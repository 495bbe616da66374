import TableSchema.Number.Decimal
import TableSchema.Number.Integer
import TableSchema.Proofs.Text.Characters

namespace TableSchema.Number

open TableSchema.Text

/-! Digits of a natural number -/

theorem toList_toString (n : Nat) : (toString n).toList = Nat.toDigits 10 n :=
  Nat.toList_repr

theorem isAsciiDigit_of_mem_toDigits {n : Nat} {c : Char} (h : c ∈ Nat.toDigits 10 n) :
    isAsciiDigit c = true :=
  isAsciiDigit_iff.mpr (Char.isDigit_iff_toNat.mp
    (Nat.isDigit_of_mem_toDigits (by decide) (by decide) h))

theorem digitsOf_eq_ofDigitChars (cs : List Char) :
    Decimal.digitsOf cs = Nat.ofDigitChars 10 cs 0 := by
  simp only [Decimal.digitsOf, ofDigits, Nat.ofDigitChars_eq_foldl, List.foldl_map]
  rfl

theorem digitsOf_toDigits (n : Nat) : Decimal.digitsOf (Nat.toDigits 10 n) = n := by
  rw [digitsOf_eq_ofDigitChars, Nat.ofDigitChars_ten_toDigits]

-- Zeros in front of a numeral do not count.
theorem digitsOf_zeros_append (count n : Nat) :
    Decimal.digitsOf (List.replicate count '0' ++ Nat.toDigits 10 n) = n := by
  rw [digitsOf_eq_ofDigitChars, Nat.ofDigitChars_append, Nat.ofDigitChars_replicate_zero,
    Nat.mul_zero, Nat.ofDigitChars_ten_toDigits]

-- A number lies below the power of ten for its count of digits.
theorem ofDigits_lt {values : List Nat} (h : ∀ value ∈ values, value < 10) :
    ofDigits values < 10 ^ values.length := by
  induction values using List.reverseRecOn with
  | nil => decide
  | append_singleton values last ih =>
      have hvalues := ih fun value hm => h value (List.mem_append_left _ hm)
      have hlast := h last (by simp)
      simp only [ofDigits] at hvalues
      simp only [ofDigits, List.foldl_append, List.foldl_cons, List.foldl_nil, List.length_append,
        List.length_singleton, Nat.pow_succ]
      omega

/-! Signs -/

theorem sign_ne_of_isAsciiDigit {c : Char} (h : isAsciiDigit c = true) : c ≠ '+' ∧ c ≠ '-' := by
  constructor
  all_goals
    rintro rfl
    exact absurd h (by decide)

theorem splitSign_eq_self {cs : List Char} (h : ∀ c ∈ cs.head?, c ≠ '+' ∧ c ≠ '-') :
    Decimal.splitSign cs = (false, cs) := by
  fun_cases Decimal.splitSign cs with
  | case1 rest => exact absurd rfl (h '+' rfl).1
  | case2 rest => exact absurd rfl (h '-' rfl).2
  | case3 => rfl

/-! Integers as text -/

theorem integerDigits?_lt {cs : List Char} {values : List Nat}
    (h : integerDigits? cs = some values) :
    ∀ value ∈ values, value < 10 := by
  fun_induction integerDigits? cs generalizing values with
  | case1 => cases h
  | case2 c =>
      obtain ⟨value, hv, rfl⟩ := Option.map_eq_some_iff.mp h
      simpa using digitValue?_lt hv
  | case3 c rest ih =>
      simp only [Option.bind_eq_bind, Option.bind_eq_some_iff, Option.pure_def,
        Option.some.injEq] at h
      obtain ⟨value, hv, values, hr, rfl⟩ := h
      exact List.forall_mem_cons.mpr ⟨digitValue?_lt hv, ih hr⟩
  | case4 c rest _ _ ih =>
      simp only [Option.bind_eq_bind, Option.bind_eq_some_iff, Option.pure_def,
        Option.some.injEq] at h
      obtain ⟨value, hv, values, hr, rfl⟩ := h
      exact List.forall_mem_cons.mpr ⟨digitValue?_lt hv, ih hr⟩

-- An integer that has been read has few enough digits.
theorem natAbs_lt_of_integerOfText? {cs : List Char} {value : Int}
    (h : integerOfText? cs = some value) : value.natAbs < 10 ^ integerDigitLimit := by
  simp only [integerOfText?] at h
  split at h
  · cases h
  · rename_i values hv
    split at h
    · cases h
    · rename_i hlimit
      have hlt := ofDigits_lt (integerDigits?_lt hv)
      have hle : 10 ^ values.length ≤ 10 ^ integerDigitLimit :=
        Nat.pow_le_pow_right (by decide) (Nat.not_lt.mp hlimit)
      obtain rfl := Option.some.inj h
      split <;> omega

theorem integerDigits?_of_isAsciiDigit {cs : List Char} (hcs : cs ≠ [])
    (h : ∀ c ∈ cs, isAsciiDigit c = true) :
    integerDigits? cs = some (cs.map fun c => c.toNat - 0x30) := by
  fun_induction integerDigits? cs with
  | case1 => exact absurd rfl hcs
  | case2 c => simp [digitValue?_of_isAsciiDigit (h c (by simp))]
  | case3 c rest => exact absurd (h '_' (by simp)) (by decide)
  | case4 c rest hrest _ ih =>
      rw [List.forall_mem_cons] at h
      have hne : rest ≠ [] := fun he => hrest he
      simp [digitValue?_of_isAsciiDigit h.1, ih hne h.2]

theorem integerOfText?_eq_splitSign (cs : List Char) :
    integerOfText? cs =
      let (negative, digits) :=
        Decimal.splitSign (trim isIntegerBlank cs)
      match integerDigits? digits with
      | none => none
      | some values =>
        if integerDigitLimit < values.length then none
        else some (if negative then -(ofDigits values : Int) else ofDigits values) :=
  rfl

theorem integerOfText?_toDigits {n : Nat} (h : n < 10 ^ integerDigitLimit) :
    integerOfText? (Nat.toDigits 10 n) = some (n : Int) := by
  have hdigit : ∀ c ∈ Nat.toDigits 10 n, isAsciiDigit c = true :=
    fun c => isAsciiDigit_of_mem_toDigits
  have hword : ∀ c ∈ Nat.toDigits 10 n, Schema.isWordChar c = true :=
    fun c hc => Schema.isWordChar_of_isAsciiDigit (hdigit c hc)
  have htrim : trim isIntegerBlank (Nat.toDigits 10 n) = Nat.toDigits 10 n := by
    refine trim_eq_self fun c hc => ?_
    rw [isIntegerBlank, if_pos (Schema.isAscii_of_isWordChar (hword c hc))]
    exact Schema.isAsciiBlank_of_isWordChar (hword c hc)
  have hlength : (Nat.toDigits 10 n).length ≤ integerDigitLimit :=
    (Nat.length_toDigits_le_iff (by decide) (by decide)).mpr h
  have hvalues := integerDigits?_of_isAsciiDigit Nat.toDigits_ne_nil hdigit
  have hvalue := digitsOf_toDigits n
  simp only [Decimal.digitsOf] at hvalue
  have hsign : Decimal.splitSign (Nat.toDigits 10 n) = (false, Nat.toDigits 10 n) :=
    splitSign_eq_self fun c hc => sign_ne_of_isAsciiDigit (hdigit c (List.mem_of_mem_head? hc))
  rw [integerOfText?_eq_splitSign, htrim, hsign]
  simp only [hvalues, List.length_map, Nat.not_lt.mpr hlength, if_false, hvalue, Bool.false_eq_true]

end TableSchema.Number
