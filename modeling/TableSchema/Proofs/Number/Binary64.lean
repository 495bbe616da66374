import Mathlib
import TableSchema.Number.Binary64

namespace TableSchema.Number.Binary64

-- Halfway between the largest number, which is `(2 ^ 53 - 1) * 2 ^ 971`, and `2 ^ 1024`.
def overflowBound : Nat :=
  (2 ^ 54 - 1) * 2 ^ 970

/-! The exponent of an integer -/

theorem scaled_natCast (numerator denominator base shift : Nat) :
    scaled numerator denominator base shift = (numerator, denominator * base ^ shift) := by
  rw [scaled, if_pos (Int.natCast_nonneg shift), Int.toNat_natCast, Nat.pow_eq]

theorem scaled_of_neg (numerator denominator base : Nat) {shift : Int} (hshift : shift < 0) :
    scaled numerator denominator base shift = (numerator * base ^ (-shift).toNat, denominator) := by
  rw [scaled, if_neg (Int.not_le.mpr hshift), Nat.pow_eq]

-- The leading bit of an integer is at the place of its logarithm, wherever the point is put.
theorem mantissaBound_le_scaled {n : Nat} (hn : n ≠ 0) :
    mantissaBound / 2 ≤
      (scaled n 1 2 ((n.log2 : Int) - 52)).1 / (scaled n 1 2 ((n.log2 : Int) - 52)).2 := by
  have hbound : mantissaBound / 2 = 2 ^ 52 := rfl
  have hlow : 2 ^ n.log2 ≤ n := Nat.log2_self_le hn
  rw [hbound]
  rcases Nat.lt_or_ge n.log2 52 with hlog | hlog
  · have hplaces : n.log2 + (-((n.log2 : Int) - 52)).toNat = 52 := by omega
    rw [scaled_of_neg _ _ _ (by omega), Nat.div_one]
    calc 2 ^ 52 = 2 ^ n.log2 * 2 ^ (-((n.log2 : Int) - 52)).toNat := by rw [← Nat.pow_add, hplaces]
      _ ≤ n * 2 ^ (-((n.log2 : Int) - 52)).toNat := Nat.mul_le_mul_right _ hlow
  · obtain ⟨shift, hshift⟩ : ∃ shift, n.log2 = 52 + shift := Nat.exists_eq_add_of_le hlog
    have hplaces : (n.log2 : Int) - 52 = shift := by omega
    rw [hshift, Nat.pow_add] at hlow
    rw [hplaces, scaled_natCast, Nat.one_mul]
    exact (Nat.le_div_iff_mul_le (Nat.two_pow_pos shift)).mpr hlow

theorem exponentFor_one {n : Nat} (hn : n ≠ 0) : exponentFor n 1 = (n.log2 : Int) - 52 := by
  have hlog : Nat.log2 1 = 0 := by decide
  have hguess : (n.log2 : Int) - (Nat.log2 1 : Int) - 52 = (n.log2 : Int) - 52 := by
    rw [hlog]
    omega
  simp only [exponentFor, hguess]
  rw [if_neg (Nat.not_lt.mpr (mantissaBound_le_scaled hn))]
  omega

/-! Rounding up to a power of two -/

-- Below an even number of units only what is within half a unit of it is rounded to it.
theorem roundQuotient_eq_iff {n half bound : Nat} (heven : bound % 2 = 0)
    (hn : n < bound * (2 * half)) :
    roundQuotient n (2 * half) = bound ↔ bound * (2 * half) ≤ n + half := by
  have hquotient : n / (2 * half) < bound := Nat.div_lt_of_lt_mul (Nat.mul_comm bound _ ▸ hn)
  have hparts : 2 * half * (n / (2 * half)) + n % (2 * half) = n := Nat.div_add_mod n (2 * half)
  have hrest : n % (2 * half) < 2 * half := Nat.mod_lt n (by
    rcases Nat.eq_zero_or_pos half with rfl | hpos
    · simp at hn
    · omega)
  simp only [roundQuotient]
  generalize n / (2 * half) = quotient at hquotient hparts ⊢
  generalize n % (2 * half) = rest at hparts hrest ⊢
  obtain ⟨gap, rfl⟩ : ∃ gap, bound = quotient + 1 + gap := ⟨bound - quotient - 1, by omega⟩
  have hproduct : (quotient + 1 + gap) * (2 * half) =
      2 * half * quotient + 2 * half + gap * (2 * half) := by ring
  rw [hproduct]
  cases gap with
  | zero =>
      rw [Nat.zero_mul, Nat.add_zero]
      split
      · omega
      · omega
  | succ gap =>
      -- A whole unit lies between.
      have hunit : (gap + 1) * (2 * half) = gap * (2 * half) + 2 * half := Nat.succ_mul gap _
      rw [hunit] at hproduct ⊢
      split
      · omega
      · omega

/-! Integers that are too large -/

section Places

-- The places behind the 53 bits of a mantissa and the bit that decides how it is rounded.
variable {n places : Nat}

theorem lt_of_log2_lt (h : n.log2 < 53 + places) : n < (2 ^ 54 - 1) * 2 ^ places :=
  calc n < 2 ^ (n.log2 + 1) := Nat.lt_log2_self
    _ ≤ 2 ^ (53 + places) := Nat.pow_le_pow_right Nat.two_pos h
    _ = 2 ^ 53 * 2 ^ places := Nat.pow_add 2 53 places
    _ ≤ (2 ^ 54 - 1) * 2 ^ places := Nat.mul_le_mul_right _ (by decide)

theorem le_of_lt_log2 (hn : n ≠ 0) (h : 53 + places < n.log2) : (2 ^ 54 - 1) * 2 ^ places ≤ n :=
  calc (2 ^ 54 - 1) * 2 ^ places ≤ 2 ^ 54 * 2 ^ places := Nat.mul_le_mul_right _ (by decide)
    _ = 2 ^ (54 + places) := (Nat.pow_add 2 54 places).symm
    _ ≤ 2 ^ n.log2 := Nat.pow_le_pow_right Nat.two_pos (by omega)
    _ ≤ n := Nat.log2_self_le hn

theorem roundQuotient_eq_mantissaBound_iff (h : n.log2 = 53 + places) :
    roundQuotient n (2 * 2 ^ places) = mantissaBound ↔ (2 ^ 54 - 1) * 2 ^ places ≤ n := by
  have hbelow : n < mantissaBound * (2 * 2 ^ places) :=
    calc n < 2 ^ (n.log2 + 1) := Nat.lt_log2_self
      _ = 2 ^ (53 + (places + 1)) := by rw [h, Nat.add_assoc]
      _ = 2 ^ 53 * (2 * 2 ^ places) := by
          rw [Nat.pow_add]
          exact congrArg _ Nat.pow_succ'
  rw [roundQuotient_eq_iff (by decide) hbelow, mantissaBound]
  omega

-- The leading bit settles it, unless it is at the last place. Then it is whether the number is
-- rounded up to the next power of two.
theorem ofRatio_one_eq_infinite_iff_log2 (hn : n ≠ 0) (hplaces : places = 970) (negative : Bool) :
    (∃ sign, ofRatio negative n 1 = .infinite sign) ↔ 53 + places < n.log2 ∨
      n.log2 = 53 + places ∧ roundQuotient n (2 * 2 ^ places) = mantissaBound := by
  have hlast : n.log2 = 53 + places → scaled n 1 2 ((n.log2 : Int) - 52) = (n, 2 * 2 ^ places) := by
    intro hlog
    have hshift : (n.log2 : Int) - 52 = (places + 1 : Nat) := by omega
    rw [hshift, scaled_natCast, Nat.one_mul, Nat.pow_succ']
  have hinfinite : ∀ (exponent : Int) (mantissa : Nat), (∃ sign,
      (if 971 < exponent then Binary64.infinite negative else .finite negative mantissa exponent) =
        .infinite sign) ↔ 971 < exponent := by
    intro exponent mantissa
    split
    · exact iff_of_true ⟨negative, rfl⟩ ‹_›
    · exact iff_of_false nofun ‹_›
  simp only [ofRatio, if_neg hn, exponentFor_one hn, hinfinite]
  generalize scaled n 1 2 ((n.log2 : Int) - 52) = parts at hlast ⊢
  by_cases hup : roundQuotient parts.1 parts.2 = mantissaBound
  · rw [if_pos hup]
    rcases Nat.lt_trichotomy n.log2 (53 + places) with hlog | hlog | hlog
    · exact iff_of_false (by omega) (by omega)
    · rw [hlast hlog] at hup
      exact iff_of_true (by omega) (.inr ⟨hlog, hup⟩)
    · exact iff_of_true (by omega) (.inl hlog)
  · rw [if_neg hup]
    constructor
    · intro hexponent
      exact .inl (by omega)
    · rintro (hlog | ⟨hlog, hround⟩)
      · omega
      · rw [hlast hlog] at hup
        exact absurd hround hup

end Places

-- The integers that have no number near them.
theorem ofInt_eq_infinite_iff (n : Int) :
    (∃ negative, ofInt n = .infinite negative) ↔ overflowBound ≤ n.natAbs := by
  rw [ofInt, overflowBound]
  rcases eq_or_ne n.natAbs 0 with hn | hn
  · rw [hn]
    exact iff_of_false (by simp [ofRatio])
      (Nat.not_le.mpr (Nat.mul_pos (by decide) (pow_pos Nat.two_pos 970)))
  · rw [ofRatio_one_eq_infinite_iff_log2 hn rfl]
    rcases Nat.lt_trichotomy n.natAbs.log2 (53 + 970) with hlog | hlog | hlog
    · exact iff_of_false (not_or.mpr ⟨hlog.asymm, fun hlast => hlog.ne hlast.1⟩)
        (Nat.not_le.mpr (lt_of_log2_lt hlog))
    · rw [roundQuotient_eq_mantissaBound_iff hlog]
      exact ⟨fun h => h.elim (fun hlater => absurd hlog hlater.ne') And.right,
        fun h => .inr ⟨hlog, h⟩⟩
    · exact iff_of_true (.inl hlog) (le_of_lt_log2 hn hlog)

end TableSchema.Number.Binary64
