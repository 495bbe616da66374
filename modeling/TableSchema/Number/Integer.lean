import TableSchema.Text.Blank
import TableSchema.Text.Digit

namespace TableSchema.Number

open TableSchema.Text

-- An integer with more digits than this is not read.
def integerDigitLimit : Nat := 4300

-- Digits of any script with single underscores between them.
def integerDigits? : List Char → Option (List Nat)
  | [] => none
  | [c] => (digitValue? c).map ([·])
  | c :: '_' :: rest => do
    let value ← digitValue? c
    let values ← integerDigits? rest
    return value :: values
  | c :: rest => do
    let value ← digitValue? c
    let values ← integerDigits? rest
    return value :: values

-- What may stand around an integer: white space, but for the controls of ASCII that
-- are no more than separators.
def isIntegerBlank (c : Char) : Bool :=
  if isAscii c then isAsciiBlank c else isBlank c

-- A sign if any, and digits, between white space.
def integerOfText? (cs : List Char) : Option Int :=
  let body := trim isIntegerBlank cs
  let (negative, digits) := match body with
    | '+' :: rest => (false, rest)
    | '-' :: rest => (true, rest)
    | rest => (false, rest)
  match integerDigits? digits with
  | none => none
  | some values =>
    if integerDigitLimit < values.length then none
    else some (if negative then -(ofDigits values : Int) else ofDigits values)

end TableSchema.Number
