namespace TableSchema.Number

-- A binary floating-point number of 64 bits: `mantissa * 2 ^ exponent` under its
-- sign, with a mantissa below 2 ^ 53. A zero keeps its sign.
inductive Binary64
  | finite (negative : Bool) (mantissa : Nat) (exponent : Int)
  | infinite (negative : Bool)
  deriving DecidableEq, Repr

namespace Binary64

-- The integer nearest to `numerator / denominator`, of two the even one.
def roundQuotient (numerator denominator : Nat) : Nat :=
  let quotient := numerator / denominator
  let twice := 2 * (numerator % denominator)
  if denominator < twice ∨ (twice = denominator ∧ quotient % 2 = 1) then quotient + 1
  else quotient

-- `numerator / denominator / base ^ shift`, as a quotient of naturals.
def scaled (numerator denominator base : Nat) (shift : Int) : Nat × Nat :=
  if 0 ≤ shift then (numerator, denominator * Nat.pow base shift.toNat)
  else (numerator * Nat.pow base (-shift).toNat, denominator)

-- Mantissas lie below this bound.
def mantissaBound : Nat := 0x20000000000000

-- The exponent that leaves 53 bits before the point, but no less than the one
-- of the smallest number.
def exponentFor (numerator denominator : Nat) : Int :=
  let guess : Int := (numerator.log2 : Int) - denominator.log2 - 52
  let (n, d) := scaled numerator denominator 2 guess
  max (if n / d < mantissaBound / 2 then guess - 1 else guess) (-1074)

-- The number nearest to a quotient, of two the one with an even mantissa.
def ofRatio (negative : Bool) (numerator denominator : Nat) : Binary64 :=
  if numerator = 0 then .finite negative 0 0
  else
    let exponent := exponentFor numerator denominator
    let (n, d) := scaled numerator denominator 2 exponent
    let mantissa := roundQuotient n d
    let (mantissa, exponent) :=
      if mantissa = mantissaBound then (mantissaBound / 2, exponent + 1) else (mantissa, exponent)
    if 971 < exponent then .infinite negative else .finite negative mantissa exponent

-- The number nearest to `coefficient * 10 ^ exponent`. Beyond 800 places the
-- answer no longer depends on the exponent.
def ofDecimal (negative : Bool) (coefficient : Nat) (exponent : Int) : Binary64 :=
  let digits : Int := (toString coefficient).length
  if coefficient = 0 then .finite negative 0 0
  else if 400 < exponent + digits then .infinite negative
  else if exponent + digits < -400 then .finite negative 0 0
  else
    let (n, d) := scaled coefficient 1 10 (-exponent)
    ofRatio negative n d

def ofInt (n : Int) : Binary64 :=
  ofRatio (n < 0) n.natAbs 1

-- The exact magnitude as a quotient.
def magnitude (mantissa : Nat) (exponent : Int) : Nat × Nat :=
  scaled mantissa 1 2 (-exponent)

-- The quotient of two integers. Division by zero is not used.
def quotient (a b : Int) : Binary64 :=
  ofRatio ((a < 0) != (b < 0)) a.natAbs b.natAbs

-- The number nearest to the quotient of two numbers.
def divide : Binary64 → Binary64 → Binary64
  | .finite p a x, .finite q b y =>
    let (n, m) := magnitude a x
    let (d, e) := magnitude b y
    ofRatio (p != q) (n * e) (m * d)
  | .finite p .., .infinite q => .finite (p != q) 0 0
  | .infinite p, .finite q .. => .infinite (p != q)
  | .infinite p, .infinite q => .infinite (p != q)

-- Whether the number is at most `bound`.
def atMost : Binary64 → Nat → Bool
  | .finite true .., _ => true
  | .finite false mantissa exponent, bound =>
    let (n, d) := magnitude mantissa exponent
    n ≤ bound * d
  | .infinite negative, _ => negative

def signText (negative : Bool) : String :=
  if negative then "-" else ""

-- The exact value rounded to so many places, a tie to the even digit.
def fixed (places : Nat) : Binary64 → String
  | .infinite negative => signText negative ++ "inf"
  | .finite negative mantissa exponent =>
    let (n, d) := magnitude mantissa exponent
    let digits := (toString (roundQuotient (n * Nat.pow 10 places) d)).toList
    let padded := List.replicate (places + 1 - digits.length) '0' ++ digits
    let whole := padded.take (padded.length - places)
    let fraction := padded.drop (padded.length - places)
    signText negative ++ String.ofList whole ++
      (if places = 0 then "" else "." ++ String.ofList fraction)

/-! The fewest digits that read back -/

-- The position of the leading digit: the `k` with `10 ^ k ≤ n / d < 10 ^ (k + 1)`,
-- found by stepping from an estimate by length.
def leadingPlace (n d : Nat) : Int :=
  let guess : Int := ((toString n).length : Int) - (toString d).length
  let (a, b) := scaled n d 10 guess
  if a < b then guess - 1 else guess

-- The candidates with the last digit at `place`: the two neighbours on that
-- grid, the nearer first, a tie to the even one.
def neighbours (n d : Nat) (place : Int) : List Nat :=
  let (a, b) := scaled n d 10 place
  let low := a / b
  if roundQuotient a b = low then [low, low + 1] else [low + 1, low]

-- The first count of digits, from `used` on, for which a candidate reads back.
def shortestFrom (number : Binary64) (n d : Nat) (lead : Int) : Nat → Nat → Nat × Int
  | 0, used => ((neighbours n d (lead + 1 - used)).headD 0, lead + 1 - used)
  | fuel + 1, used =>
    let place := lead + 1 - used
    match (neighbours n d place).find? fun c => ofDecimal false c place == number with
    | some coefficient => (coefficient, place)
    | none => shortestFrom number n d lead fuel (used + 1)

-- Coefficient and exponent of the shortest decimal that reads back.
def shortest (mantissa : Nat) (exponent : Int) : Nat × Int :=
  let (n, d) := magnitude mantissa exponent
  shortestFrom (.finite false mantissa exponent) n d (leadingPlace n d) 17 1

def withoutTrailingZeros (digits : List Char) : List Char :=
  (digits.reverse.dropWhile (· == '0')).reverse

-- Digits with the point where the leading digit says: positional from 0.0001
-- up to 16 digits, always with a fraction; otherwise with an exponent of at
-- least two digits.
def layout (digits : List Char) (lead : Int) : String :=
  if -5 < lead ∧ lead < 16 then
    if lead < 0 then
      "0." ++ String.ofList (List.replicate (-lead - 1).toNat '0' ++ digits)
    else
      let whole := (digits ++ List.replicate (lead.toNat + 1 - digits.length) '0').take (lead.toNat + 1)
      let fraction := digits.drop (lead.toNat + 1)
      String.ofList whole ++ "." ++ (if fraction.isEmpty then "0" else String.ofList fraction)
  else
    let head := String.ofList (digits.take 1)
    let tail := if digits.length ≤ 1 then "" else "." ++ String.ofList (digits.drop 1)
    let power := toString lead.natAbs
    head ++ tail ++ "e" ++ (if lead < 0 then "-" else "+") ++
      (if power.length < 2 then "0" ++ power else power)

-- The shortest decimal text that reads back as the number.
def render : Binary64 → String
  | .infinite negative => signText negative ++ "inf"
  | .finite negative mantissa exponent =>
    if mantissa = 0 then signText negative ++ "0.0"
    else
      let (coefficient, place) := shortest mantissa exponent
      let digits := (toString coefficient).toList
      signText negative ++ layout (withoutTrailingZeros digits) (place + digits.length - 1)

end Binary64

end TableSchema.Number
