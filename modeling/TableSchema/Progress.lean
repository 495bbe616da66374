import TableSchema.Number.Binary64

namespace TableSchema

open TableSchema.Number

-- What a display is told after a row: how many rows of all are done, and then
-- how many of a hundred.
inductive Notice
  | count (total done : Int)
  | percent (share : Binary64)
  deriving DecidableEq, Repr

-- A display may complain about a notice on a line.
abbrev Display := Nat → Notice → Option String

-- Shows everything.
def Display.silent : Display :=
  fun _ _ => none

-- The rows done of a hundred, and no more than a hundred. There is no answer
-- for a total that is too large to divide by.
def share? (total : Int) (done : Nat) : Option Binary64 :=
  match Binary64.ofInt total with
  | .infinite _ => none
  | divisor =>
    let share := (Binary64.ofInt (100 * done)).divide divisor
    some (if share.atMost 100 then share else Binary64.ofInt 100)

def Notice.line : Notice → String
  | .count total done => "processing " ++ toString done ++ " of " ++ toString total
  | .percent share => share.fixed 0 ++ "%"

-- The text that notices leave on a console.
def Notice.text (notices : List Notice) : String :=
  String.join (notices.map fun notice => notice.line ++ "\n")

end TableSchema
