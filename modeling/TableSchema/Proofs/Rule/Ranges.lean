import TableSchema.Proofs.Number.Grammar
import TableSchema.Proofs.Number.Order
import TableSchema.Rule.Evaluation

namespace TableSchema

open TableSchema.Text

namespace Number

-- The text is a numeral, and denotes the number.
def Denotes (cs : List Char) (q : ℚ) : Prop :=
  ∃ negative coefficient exponent, IsNumeral cs (.finite negative coefficient exponent) ∧
    q = Decimal.quantity negative coefficient exponent

theorem denotes_strip_iff {cs : List Char} {q : ℚ} :
    Denotes (strip cs) q ↔ ∃ negative coefficient exponent,
      Decimal.ofText? cs = some (.finite negative coefficient exponent) ∧
        q = Decimal.quantity negative coefficient exponent :=
  exists₃_congr fun _ _ _ => and_congr_left' (Decimal.ofText?_eq_some_iff rfl).symm

-- No text denotes two numbers.
theorem Denotes.eq {cs : List Char} {q r : ℚ} (hq : Denotes (strip cs) q)
    (hr : Denotes (strip cs) r) : q = r := by
  obtain ⟨_, _, _, hfirst, rfl⟩ := denotes_strip_iff.mp hq
  obtain ⟨_, _, _, hsecond, rfl⟩ := denotes_strip_iff.mp hr
  cases hfirst.symm.trans hsecond
  rfl

namespace Decimal

/-! Bounds -/

def IsAtMost (q : ℚ) : Decimal → Prop
  | .finite negative coefficient exponent => quantity negative coefficient exponent ≤ q
  | .infinite negative => negative = true
  | .nan .. => False

def IsAtLeast (q : ℚ) : Decimal → Prop
  | .finite negative coefficient exponent => q ≤ quantity negative coefficient exponent
  | .infinite negative => negative = false
  | .nan .. => False

section Bounds

variable (negative : Bool) (coefficient : Nat) (exponent : Int) {bound : Decimal}

theorem compare?_eq_lt_iff (hnan : bound.isNan = false) :
    ∃ order, (finite negative coefficient exponent).compare? bound = some order ∧
      (order ≠ .lt ↔ bound.IsAtMost (quantity negative coefficient exponent)) := by
  cases bound with
  | nan => cases hnan
  | infinite q => cases q <;> simp [compare?, IsAtMost]
  | finite q b y => exact ⟨_, compare?_finite .., by rw [ne_eq, compare_lt_iff_lt, not_lt]; rfl⟩

theorem compare?_eq_gt_iff (hnan : bound.isNan = false) :
    ∃ order, (finite negative coefficient exponent).compare? bound = some order ∧
      (order ≠ .gt ↔ bound.IsAtLeast (quantity negative coefficient exponent)) := by
  cases bound with
  | nan => cases hnan
  | infinite q => cases q <;> simp [compare?, IsAtLeast]
  | finite q b y => exact ⟨_, compare?_finite .., by rw [ne_eq, compare_gt_iff_gt, not_lt]; rfl⟩

end Bounds

end Decimal

end Number

namespace Rule

/-! Ranges -/

theorem isOnSide_eq_ok {wrong : Ordering} {number : Number.Decimal} {bound : Option Number.Decimal}
    {p : Number.Decimal → Prop}
    (h : ∀ value ∈ bound, ∃ order, number.compare? value = some order ∧ (order ≠ wrong ↔ p value)) :
    ∃ answer, isOnSide wrong number bound = .ok answer ∧ (answer = true ↔ ∀ value ∈ bound, p value) := by
  cases bound with
  | none => exact ⟨true, rfl, by simp⟩
  | some value =>
      obtain ⟨order, hcompare, hiff⟩ := h value rfl
      refine ⟨order != wrong, by simp [isOnSide, hcompare], ?_⟩
      simpa using hiff

-- A cell is within bounds exactly if it denotes a number that is, whatever digits and
-- exponents it is written with.
theorem isInRange_eq_ok {low high : Option Number.Decimal} (hlow : ∀ a ∈ low, a.isNan = false)
    (hhigh : ∀ b ∈ high, b.isNan = false) (cs : List Char) :
    ∃ answer, isInRange low high cs = .ok answer ∧
      (answer = true ↔ ∃ q, Number.Denotes (strip cs) q ∧ (∀ a ∈ low, a.IsAtMost q) ∧
        ∀ b ∈ high, b.IsAtLeast q) := by
  simp only [Number.denotes_strip_iff]
  cases htext : Number.Decimal.ofText? cs with
  | none => exact ⟨false, by simp [isInRange, htext], by simp⟩
  | some number =>
      cases number with
      | nan => exact ⟨false, by simp [isInRange, htext, Number.Decimal.isFinite], by simp⟩
      | infinite => exact ⟨false, by simp [isInRange, htext, Number.Decimal.isFinite], by simp⟩
      | finite negative coefficient exponent =>
          obtain ⟨above, habove, hleast⟩ :=
            isOnSide_eq_ok fun a ha =>
              Number.Decimal.compare?_eq_lt_iff negative coefficient exponent (hlow a ha)
          obtain ⟨below, hbelow, hmost⟩ :=
            isOnSide_eq_ok fun b hb =>
              Number.Decimal.compare?_eq_gt_iff negative coefficient exponent (hhigh b hb)
          refine ⟨above && below, ?_, ?_⟩
          · simp only [isInRange, htext, Number.Decimal.isFinite, habove, hbelow]
            cases above <;> rfl
          · simp [hleast, hmost]

section Evaluation

variable {low high : Option Number.Decimal} (hlow : ∀ a ∈ low, a.isNan = false)
  (hhigh : ∀ b ∈ high, b.isNan = false) (context : Context) (value : String) (memory : Memory)

include hlow hhigh

theorem evaluate_range_eq_ok :
    ∃ answer, (range low high).evaluate context value memory = (.ok answer, memory) ∧
      (answer = true ↔ ∃ q, Number.Denotes (strip value.toList) q ∧ (∀ a ∈ low, a.IsAtMost q) ∧
        ∀ b ∈ high, b.IsAtLeast q) := by
  obtain ⟨answer, hanswer, hiff⟩ := isInRange_eq_ok hlow hhigh value.toList
  exact ⟨answer, congrArg (·, memory) hanswer, hiff⟩

theorem evaluate_range_eq_true_iff :
    ((range low high).evaluate context value memory).1 = .ok true ↔
      ∃ q, Number.Denotes (strip value.toList) q ∧ (∀ a ∈ low, a.IsAtMost q) ∧
        ∀ b ∈ high, b.IsAtLeast q := by
  obtain ⟨answer, hanswer, hiff⟩ := evaluate_range_eq_ok hlow hhigh context value memory
  rw [hanswer, ← hiff]
  exact Except.ok.injEq answer true ▸ Iff.rfl

end Evaluation

-- A range is satisfied by the cells that are, apart from white space around them,
-- numerals for numbers within its bounds, in the exact order of the rationals. Each
-- bound is a condition of its own.
theorem range_accepts_iff_denotes (low high : Option Number.Decimal)
    (hlow : ∀ a ∈ low, a.isNan = false) (hhigh : ∀ b ∈ high, b.isNan = false) (context : Context)
    (value : String) (memory : Memory) :
    (∃ answer, (range low high).evaluate context value memory = (.ok answer, memory) ∧
      (answer = true ↔ ∃ q, Number.Denotes (strip value.toList) q ∧ (∀ a ∈ low, a.IsAtMost q) ∧
        ∀ b ∈ high, b.IsAtLeast q)) ∧
    (((range low high).evaluate context value memory).1 = .ok true ↔
      ((range low none).evaluate context value memory).1 = .ok true ∧
        ((range none high).evaluate context value memory).1 = .ok true) := by
  have hnone : ∀ b ∈ (none : Option Number.Decimal), b.isNan = false := fun b hb =>
    absurd hb (Option.not_mem_none b)
  refine ⟨evaluate_range_eq_ok hlow hhigh context value memory, ?_⟩
  rw [evaluate_range_eq_true_iff hlow hhigh, evaluate_range_eq_true_iff hlow hnone,
    evaluate_range_eq_true_iff hnone hhigh]
  constructor
  · rintro ⟨q, hq, hleast, hmost⟩
    exact ⟨⟨q, hq, hleast, by simp⟩, ⟨q, hq, by simp, hmost⟩⟩
  · rintro ⟨⟨q, hq, hleast, -⟩, ⟨r, hr, -, hmost⟩⟩
    obtain rfl := hq.eq hr
    exact ⟨q, hq, hleast, hmost⟩

-- A number that is one if it is rounded to thirty digits, in digits of two scripts.
def nearlyOne : String :=
  "\u2003+٠_.99999_99999_99999_99999_99999_99999_9e-٠0 "

def emptyContext : Context where
  row := []
  columns := []
  ignoreCase := false
  resolver := PathResolver.default
  files := .bare

-- It is above a zero with a sign and below a one, and no bound at all is above it.
theorem range_accepts_iff_denotes_of_nearlyOne :
    (∀ a ∈ some (Number.Decimal.finite true 0 5), a.isNan = false) ∧
      (∀ b ∈ some (Number.Decimal.finite false 1 0), b.isNan = false) ∧
      (∃ q, Number.Denotes (strip nearlyOne.toList) q ∧
        (∀ a ∈ some (Number.Decimal.finite true 0 5), a.IsAtMost q) ∧
        ∀ b ∈ some (Number.Decimal.finite false 1 0), b.IsAtLeast q) ∧
      ((range none (some (.finite false 1 0))).evaluate emptyContext nearlyOne .blank).1 = .ok true := by
  have hlow : ∀ a ∈ some (Number.Decimal.finite true 0 5), a.isNan = false := by simp [Number.Decimal.isNan]
  have hhigh : ∀ b ∈ some (Number.Decimal.finite false 1 0), b.isNan = false := by
    simp [Number.Decimal.isNan]
  obtain ⟨⟨answer, hanswer, hiff⟩, hboth⟩ :=
    range_accepts_iff_denotes _ _ hlow hhigh emptyContext nearlyOne .blank
  let number := Number.Decimal.finite false 9999999999999999999999999999999 (-31)
  have htext : Number.Decimal.ofText? nearlyOne.toList = some number := by decide +kernel
  have habove : number.compare? (.finite true 0 5) = some .gt := by decide +kernel
  have hbelow : number.compare? (.finite false 1 0) = some .lt := by decide +kernel
  have htrue : ((range (some (.finite true 0 5)) (some (.finite false 1 0))).evaluate emptyContext
      nearlyOne .blank).1 = .ok true := by
    simp only [evaluate, holds, isInRange, htext]
    simp only [number, Number.Decimal.isFinite, isOnSide] at habove hbelow ⊢
    rw [habove, hbelow]
    rfl
  rw [hanswer] at htrue
  exact ⟨hlow, hhigh, hiff.mp (Except.ok.inj htrue), (hboth.mp (by rw [hanswer, htrue])).2⟩

end Rule

end TableSchema
