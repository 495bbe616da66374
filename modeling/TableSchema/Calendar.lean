import TableSchema.Text.Digit

namespace TableSchema.Calendar

open TableSchema.Text

/-! Dates -/

structure Date where
  year : Nat
  month : Nat
  day : Nat
  deriving DecidableEq, Repr

def isLeapYear (year : Nat) : Bool :=
  (year % 4 == 0 && year % 100 != 0) || year % 400 == 0

def daysInMonth (year month : Nat) : Nat :=
  if month = 2 then (if isLeapYear year then 29 else 28)
  else if month = 4 ∨ month = 6 ∨ month = 9 ∨ month = 11 then 30
  else 31

-- A date of the Gregorian calendar, extended to all years from 1 to 9999.
def Date.isValid (date : Date) : Bool :=
  1 ≤ date.year && date.year ≤ 9999 && 1 ≤ date.month && date.month ≤ 12 &&
    1 ≤ date.day && date.day ≤ daysInMonth date.year date.month

-- The number that exactly so many digits denote, and what follows them.
def number? (count : Nat) (cs : List Char) : Option (Nat × List Char) :=
  let digits := cs.take count
  if digits.length = count ∧ digits.all isAsciiDigit then
    some (ofDigits (digits.map fun c => c.toNat - 0x30), cs.drop count)
  else none

-- What follows the character.
def behind? (c : Char) : List Char → Option (List Char)
  | [] => none
  | d :: rest => if d = c then some rest else none

-- A date in front of a text: four, two and two digits with hyphens between them.
def Date.read? (cs : List Char) : Option (Date × List Char) := do
  let (year, cs) ← number? 4 cs
  let cs ← behind? '-' cs
  let (month, cs) ← number? 2 cs
  let cs ← behind? '-' cs
  let (day, cs) ← number? 2 cs
  return ({ year, month, day }, cs)

def isDate (cs : List Char) : Bool :=
  match Date.read? cs with
  | some (date, []) => date.isValid
  | _ => false

/-! Times -/

structure Time where
  hour : Nat
  minute : Nat
  second : Nat
  deriving DecidableEq, Repr

def Time.isValid (time : Time) : Bool :=
  time.hour ≤ 23 && time.minute ≤ 59 && time.second ≤ 59

def Time.read? (cs : List Char) : Option (Time × List Char) := do
  let (hour, cs) ← number? 2 cs
  let cs ← behind? ':' cs
  let (minute, cs) ← number? 2 cs
  let cs ← behind? ':' cs
  let (second, cs) ← number? 2 cs
  return ({ hour, minute, second }, cs)

-- What follows a point and at least one digit, or the text itself if it does
-- not begin with a point.
def afterFraction? : List Char → Option (List Char)
  | '.' :: cs => if (cs.takeWhile isAsciiDigit).isEmpty then none else some (cs.dropWhile isAsciiDigit)
  | cs => some cs

-- The minutes by which a clock differs from universal time, without the sign.
def offsetMinutes? (cs : List Char) : Option Nat := do
  let (hours, cs) ← number? 2 cs
  let cs ← behind? ':' cs
  let (minutes, cs) ← number? 2 cs
  if cs.isEmpty then some (60 * hours + minutes) else none

-- A zone is left out, the letter Z, or an offset of less than a whole day.
def isZone : List Char → Bool
  | [] => true
  | ['Z'] => true
  | sign :: cs =>
    (sign == '+' || sign == '-') &&
      match offsetMinutes? cs with
      | some minutes => minutes < 24 * 60
      | none => false

def isDateTime (cs : List Char) : Bool :=
  match Date.read? cs with
  | some (date, 'T' :: rest) =>
    match Time.read? rest with
    | some (time, rest) =>
      match afterFraction? rest with
      | some zone => date.isValid && time.isValid && isZone zone
      | none => false
    | none => false
  | _ => false

end TableSchema.Calendar
