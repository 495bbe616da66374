import TableSchema.Csv.Reader
import TableSchema.Number.Binary64
import TableSchema.Number.Integer

namespace TableSchema

-- A data frame as the library that holds it converts it: the rows of its cells, and
-- the texts of its labels. Either may fail, with a reason.
structure Frame where
  cells : Except String (List Csv.Row)
  labels : Except String Csv.Row

-- The rows behind a header with the labels, if there is to be one.
def Frame.table (frame : Frame) (hasHeader : Bool) : Except String (List Csv.Row) := do
  let rows ← frame.cells
  if hasHeader then
    let labels ← frame.labels
    return labels :: rows
  else return rows

/-! Frames of plain values -/

inductive FrameValue
  | missing
  | text (value : String)
  | integer (value : Int)
  | number (value : Number.Binary64)
  | truth (value : Bool)
  deriving DecidableEq, Repr

-- The text of a value. A missing one is an empty cell, and an integer with too many
-- digits has none.
def FrameValue.cell : FrameValue → Except String String
  | missing => .ok ""
  | text value => .ok value
  | integer value =>
    if Number.integerDigitLimit < (toString value.natAbs).length then
      .error ("Exceeds the limit (4300 digits) for integer string conversion; " ++
        "use sys.set_int_max_str_digits() to increase the limit")
    else .ok (toString value)
  | number value => .ok value.render
  | truth value => .ok (if value then "True" else "False")

-- The text of a label, also of a missing one.
def FrameValue.label : FrameValue → Except String String
  | missing => .ok "None"
  | value => value.cell

-- The rows of columns that are equally long.
def rowsOfColumns : List Csv.Row → List Csv.Row
  | [] => []
  | first :: others =>
    (List.range first.length).map fun index =>
      (first :: others).map fun column => column[index]?.getD ""

-- A frame given by its labels and its columns.
def Frame.ofColumns (labels : List FrameValue) (columns : List (List FrameValue)) : Frame where
  cells := do
    let texts ← columns.mapM fun column => column.mapM FrameValue.cell
    return rowsOfColumns texts
  labels := labels.mapM FrameValue.label

end TableSchema
