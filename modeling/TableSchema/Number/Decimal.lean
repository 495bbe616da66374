import TableSchema.Text.Blank
import TableSchema.Text.Digit

namespace TableSchema.Number

open TableSchema.Text

-- A decimal as written: `finite` is `coefficient * 10 ^ exponent` under its
-- sign, so that 1.0 and 1 denote one number and remain two spellings.
inductive Decimal
  | finite (negative : Bool) (coefficient : Nat) (exponent : Int)
  | infinite (negative : Bool)
  | nan (negative signaling : Bool) (payload : Nat)
  deriving DecidableEq, Repr

namespace Decimal

-- The largest exponent of the leading digit, and the smallest one of the last.
def maxAdjusted : Int := 999999999999999999

def minExponent : Int := -1999999999999999997

def digitCount (n : Nat) : Nat :=
  (toString n).length

-- The exponent of the leading digit.
def adjusted (coefficient : Nat) (exponent : Int) : Int :=
  exponent + digitCount coefficient - 1

-- A finite decimal whose exponent is within the limits.
def within? (negative : Bool) (coefficient : Nat) (exponent : Int) : Option Decimal :=
  if adjusted coefficient exponent ≤ maxAdjusted ∧ minExponent ≤ exponent then
    some (.finite negative coefficient exponent)
  else none

/-! Reading -/

-- Digits of any script become ASCII digits. Another character beyond ASCII
-- belongs to no numeral.
def plainChar? (c : Char) : Option Char :=
  if isAscii c then some c
  else (digitValue? c).map fun value => Char.ofNat (0x30 + value)

-- The characters that count: outer white space and all underscores are dropped.
def plainText? (cs : List Char) : Option (List Char) :=
  ((strip cs).filter (· != '_')).mapM plainChar?

def digitsOf (cs : List Char) : Nat :=
  ofDigits (cs.map fun c => c.toNat - 0x30)

def splitSign : List Char → Bool × List Char
  | '+' :: rest => (false, rest)
  | '-' :: rest => (true, rest)
  | cs => (false, cs)

-- The exponent behind the digits: nothing, or `e`, a sign if any, and digits.
def readExponent? : List Char → Option Int
  | [] => some 0
  | c :: rest =>
    if c == 'e' || c == 'E' then
      let (negative, digits) := splitSign rest
      if digits.isEmpty || !digits.all isAsciiDigit then none
      else some (if negative then -(digitsOf digits : Int) else digitsOf digits)
    else none

-- Digits with at most one point among them, then the exponent.
def readFinite? (negative : Bool) (cs : List Char) : Option Decimal :=
  let whole := cs.takeWhile isAsciiDigit
  let (fraction, rest) := match cs.dropWhile isAsciiDigit with
    | '.' :: rest => (rest.takeWhile isAsciiDigit, rest.dropWhile isAsciiDigit)
    | rest => ([], rest)
  if whole.isEmpty && fraction.isEmpty then none
  else match readExponent? rest with
    | none => none
    | some exponent =>
      within? negative (digitsOf (whole ++ fraction)) (exponent - fraction.length)

-- What follows `word` in `cs`, in any mixture of letter cases.
def afterWord? : List Char → List Char → Option (List Char)
  | [], cs => some cs
  | _ :: _, [] => none
  | w :: word, c :: cs => if c.toLower == w then afterWord? word cs else none

def readInfinite? (negative : Bool) (cs : List Char) : Option Decimal :=
  if afterWord? "inf".toList cs == some [] || afterWord? "infinity".toList cs == some [] then
    some (.infinite negative)
  else none

-- `nan` or `snan`, with the digits of a payload behind it if there is one.
def readNan? (negative : Bool) (cs : List Char) : Option Decimal :=
  match afterWord? "nan".toList cs, afterWord? "snan".toList cs with
  | some payload, _ =>
    if payload.all isAsciiDigit then some (.nan negative false (digitsOf payload)) else none
  | none, some payload =>
    if payload.all isAsciiDigit then some (.nan negative true (digitsOf payload)) else none
  | none, none => none

def ofText? (cs : List Char) : Option Decimal :=
  match plainText? cs with
  | none => none
  | some plain =>
    let (negative, rest) := splitSign plain
    (readNan? negative rest).or ((readInfinite? negative rest).or (readFinite? negative rest))

/-! Writing -/

def signText (negative : Bool) : String :=
  if negative then "-" else ""

-- Positional as long as the exponent is not positive and at most five zeros
-- follow the point; otherwise one digit before the point and an exponent.
def renderFinite (coefficient : Nat) (exponent : Int) : String :=
  let digits := (toString coefficient).toList
  let left := exponent + digits.length
  let point := if exponent ≤ 0 ∧ left > -6 then left else 1
  let body :=
    if point ≤ 0 then "0.".toList ++ List.replicate (-point).toNat '0' ++ digits
    else if point.toNat < digits.length then
      digits.take point.toNat ++ '.' :: digits.drop point.toNat
    else digits
  let scale := left - point
  let mark :=
    if scale = 0 then ""
    else "E" ++ (if scale < 0 then "-" else "+") ++ toString scale.natAbs
  String.ofList body ++ mark

def render : Decimal → String
  | .finite negative coefficient exponent => signText negative ++ renderFinite coefficient exponent
  | .infinite negative => signText negative ++ "Infinity"
  | .nan negative signaling payload =>
    signText negative ++ (if signaling then "sNaN" else "NaN") ++
      (if payload = 0 then "" else toString payload)

/-! Order -/

def isFinite : Decimal → Bool
  | .finite .. => true
  | _ => false

def isNan : Decimal → Bool
  | .nan .. => true
  | _ => false

-- The order of two positive magnitudes. The leading digits decide unless they
-- have one position, and then the exponents are close enough to be aligned.
def compareMagnitude (a : Nat) (x : Int) (b : Nat) (y : Int) : Ordering :=
  if a = 0 then (if b = 0 then .eq else .lt)
  else if b = 0 then .gt
  else if adjusted a x < adjusted b y then .lt
  else if adjusted b y < adjusted a x then .gt
  else compare (a * Nat.pow 10 (x - min x y).toNat) (b * Nat.pow 10 (y - min x y).toNat)

-- The order of the numbers denoted. A NaN has no place in it.
def compare? : Decimal → Decimal → Option Ordering
  | .nan .., _ => none
  | _, .nan .. => none
  | .infinite p, .infinite q => some (compare q.toNat p.toNat)
  | .infinite p, .finite .. => some (if p then .lt else .gt)
  | .finite .., .infinite q => some (if q then .gt else .lt)
  | .finite p a x, .finite q b y =>
    if a = 0 ∧ b = 0 then some .eq
    else if a = 0 then some (if q then .gt else .lt)
    else if b = 0 then some (if p then .lt else .gt)
    else match p, q with
      | false, false => some (compareMagnitude a x b y)
      | true, true => some (compareMagnitude b y a x)
      | true, false => some .lt
      | false, true => some .gt

-- Equality of the numbers denoted.
def sameNumber (a b : Decimal) : Bool :=
  compare? a b == some .eq

end Decimal

end TableSchema.Number
