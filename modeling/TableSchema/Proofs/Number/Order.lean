import TableSchema.Proofs.Number.Numeral

namespace TableSchema.Number.Decimal

/-! Numbers that are denoted -/

-- The number that a coefficient and an exponent denote, without a sign.
def magnitude (coefficient : Nat) (exponent : Int) : ℚ :=
  coefficient * 10 ^ exponent

def quantity (negative : Bool) (coefficient : Nat) (exponent : Int) : ℚ :=
  if negative then -magnitude coefficient exponent else magnitude coefficient exponent

theorem magnitude_pos {coefficient : Nat} (h : coefficient ≠ 0) (exponent : Int) :
    0 < magnitude coefficient exponent := by
  have hpos : 0 < coefficient := Nat.pos_of_ne_zero h
  unfold magnitude
  positivity

theorem magnitude_zero (exponent : Int) : magnitude 0 exponent = 0 := by
  simp [magnitude]

theorem quantity_zero (negative : Bool) (exponent : Int) : quantity negative 0 exponent = 0 := by
  simp [quantity, magnitude_zero]

theorem quantity_false_pos {coefficient : Nat} (h : coefficient ≠ 0) (exponent : Int) :
    0 < quantity false coefficient exponent :=
  magnitude_pos h exponent

theorem quantity_true_neg {coefficient : Nat} (h : coefficient ≠ 0) (exponent : Int) :
    quantity true coefficient exponent < 0 :=
  neg_lt_zero.mpr (magnitude_pos h exponent)

-- A magnitude on a grid that is as fine or finer.
theorem magnitude_eq_mul {coefficient : Nat} {exponent grid : Int} (h : grid ≤ exponent) :
    magnitude coefficient exponent =
      ((coefficient * Nat.pow 10 (exponent - grid).toNat : ℕ) : ℚ) * 10 ^ grid := by
  have hpow : (10 : ℚ) ^ exponent = 10 ^ (exponent - grid).toNat * 10 ^ grid := by
    rw [← zpow_natCast, ← zpow_add₀ (by norm_num)]
    congr 1
    omega
  have hcast : ((coefficient * Nat.pow 10 (exponent - grid).toNat : ℕ) : ℚ) =
      coefficient * 10 ^ (exponent - grid).toNat := by
    rw [Nat.pow_eq]
    push_cast
    rfl
  rw [magnitude, hpow, hcast, mul_assoc]

/-! Leading digits -/

theorem digitCount_eq (n : Nat) : digitCount n = (Nat.toDigits 10 n).length := by
  rw [digitCount, ← String.length_toList, toList_toString]

theorem digitCount_pos (n : Nat) : 0 < digitCount n := by
  rw [digitCount_eq]
  exact Nat.length_toDigits_pos

theorem lt_pow_digitCount (n : Nat) : n < 10 ^ digitCount n := by
  have hle := Nat.le_refl (Nat.toDigits 10 n).length
  rw [digitCount_eq]
  exact (Nat.length_toDigits_le_iff (by decide) Nat.length_toDigits_pos).mp hle

theorem pow_digitCount_le {n : Nat} (h : n ≠ 0) : 10 ^ (digitCount n - 1) ≤ n := by
  have hpos := digitCount_pos n
  rcases Nat.eq_or_lt_of_le hpos with hone | hmore
  · rw [← hone]
    exact Nat.pos_of_ne_zero h
  · by_contra hlt
    have hle := (Nat.length_toDigits_le_iff (by decide) (by omega)).mpr (Nat.lt_of_not_le hlt)
    rw [← digitCount_eq] at hle
    omega

-- The leading digit of a magnitude bounds it on both sides.
theorem magnitude_lt (coefficient : Nat) (exponent : Int) :
    magnitude coefficient exponent < 10 ^ (adjusted coefficient exponent + 1) := by
  have hcast : (coefficient : ℚ) < 10 ^ digitCount coefficient := by
    exact_mod_cast lt_pow_digitCount coefficient
  have hexponent : adjusted coefficient exponent + 1 = (digitCount coefficient : Int) + exponent := by
    rw [adjusted]
    omega
  rw [magnitude, hexponent, zpow_add₀ (by norm_num), zpow_natCast]
  exact mul_lt_mul_of_pos_right hcast (by positivity)

theorem le_magnitude {coefficient : Nat} (h : coefficient ≠ 0) (exponent : Int) :
    10 ^ adjusted coefficient exponent ≤ magnitude coefficient exponent := by
  have hcast : (10 : ℚ) ^ (digitCount coefficient - 1) ≤ coefficient := by
    exact_mod_cast pow_digitCount_le h
  have hpos := digitCount_pos coefficient
  have hexponent : adjusted coefficient exponent = ((digitCount coefficient - 1 : ℕ) : Int) + exponent := by
    rw [adjusted]
    omega
  rw [magnitude, hexponent, zpow_add₀ (by norm_num), zpow_natCast]
  exact mul_le_mul_of_nonneg_right hcast (by positivity)

theorem magnitude_lt_of_adjusted_lt {a b : Nat} {x y : Int} (hb : b ≠ 0)
    (h : adjusted a x < adjusted b y) : magnitude a x < magnitude b y :=
  calc
    magnitude a x < 10 ^ (adjusted a x + 1) := magnitude_lt a x
    _ ≤ 10 ^ adjusted b y := zpow_le_zpow_right₀ (by norm_num) h
    _ ≤ magnitude b y := le_magnitude hb y

/-! Order -/

theorem compare_natCast_mul (m n : Nat) {unit : ℚ} (h : 0 < unit) :
    compare ((m : ℚ) * unit) (n * unit) = compare m n := by
  have hmono : StrictMono fun n : Nat => (n : ℚ) * unit :=
    fun _ _ hlt => mul_lt_mul_of_pos_right (Nat.cast_lt.mpr hlt) h
  rw [← cmp_eq_compare, ← cmp_eq_compare]
  exact hmono.cmp_map_eq m n

-- Magnitudes are compared without loss, however far apart their exponents are.
theorem compareMagnitude_eq_compare (a : Nat) (x : Int) (b : Nat) (y : Int) :
    compareMagnitude a x b y = compare (magnitude a x) (magnitude b y) := by
  rw [compareMagnitude]
  split_ifs with ha hb hb hlt hgt
  · rw [ha, hb, magnitude_zero, magnitude_zero, compare_eq_iff_eq.mpr rfl]
  · rw [ha, magnitude_zero, compare_lt_iff_lt.mpr (magnitude_pos hb y)]
  · rw [hb, magnitude_zero, compare_gt_iff_gt.mpr (magnitude_pos ha x)]
  · rw [compare_lt_iff_lt.mpr (magnitude_lt_of_adjusted_lt hb hlt)]
  · rw [compare_gt_iff_gt.mpr (magnitude_lt_of_adjusted_lt ha hgt)]
  · rw [magnitude_eq_mul (min_le_left x y), magnitude_eq_mul (min_le_right x y),
      compare_natCast_mul _ _ (by positivity)]

theorem compare_neg (u v : ℚ) : compare (-u) (-v) = compare v u := by
  have hanti : StrictAnti fun u : ℚ => -u := fun _ _ => neg_lt_neg
  rw [← cmp_eq_compare, ← cmp_eq_compare]
  exact hanti.cmp_map_eq u v

theorem compare?_finite (p : Bool) (a : Nat) (x : Int) (q : Bool) (b : Nat) (y : Int) :
    (finite p a x).compare? (finite q b y) = some (compare (quantity p a x) (quantity q b y)) := by
  simp only [compare?]
  split_ifs with hboth ha hq hb hp
  · rw [hboth.1, hboth.2, quantity_zero, quantity_zero, compare_eq_iff_eq.mpr rfl]
  · have hb : b ≠ 0 := fun hb => hboth ⟨ha, hb⟩
    rw [ha, quantity_zero, hq, compare_gt_iff_gt.mpr (quantity_true_neg hb y)]
  · have hb : b ≠ 0 := fun hb => hboth ⟨ha, hb⟩
    rw [ha, quantity_zero, eq_false_of_ne_true hq, compare_lt_iff_lt.mpr (quantity_false_pos hb y)]
  · rw [hb, quantity_zero, hp, compare_lt_iff_lt.mpr (quantity_true_neg ha x)]
  · rw [hb, quantity_zero, eq_false_of_ne_true hp, compare_gt_iff_gt.mpr (quantity_false_pos ha x)]
  · cases p <;> cases q
    · exact congrArg some (compareMagnitude_eq_compare a x b y)
    · have hlt := (quantity_true_neg hb y).trans (quantity_false_pos ha x)
      rw [compare_gt_iff_gt.mpr hlt]
    · have hlt := (quantity_true_neg ha x).trans (quantity_false_pos hb y)
      rw [compare_lt_iff_lt.mpr hlt]
    · have heq := compare_neg (magnitude a x) (magnitude b y)
      exact congrArg some ((compareMagnitude_eq_compare b y a x).trans heq.symm)

theorem sameNumber_self {d : Decimal} (hnan : d.isNan = false) : d.sameNumber d = true := by
  cases d with
  | nan => cases hnan
  | infinite negative => cases negative <;> rfl
  | finite negative coefficient exponent =>
      rw [sameNumber, compare?_finite, compare_eq_iff_eq.mpr rfl]
      rfl

end TableSchema.Number.Decimal
