namespace TableSchema.Text

-- Inclusive intervals of code points, ascending and separate, each with a value.
structure IntervalMap (α : Type) where
  entries : Array (Nat × Nat × α)

namespace IntervalMap

variable {α : Type}

-- Halves the positions from `low` up to `high` until the interval that holds
-- `code` is found. The answer has the start of that interval.
def search (m : IntervalMap α) (code low high : Nat) : Option (Nat × α) :=
  if low < high then
    match m.entries[(low + high) / 2]? with
    | none => none
    | some (first, last, value) =>
      if code < first then m.search code low ((low + high) / 2)
      else if last < code then m.search code ((low + high) / 2 + 1) high
      else some (first, value)
  else none
termination_by high - low

def find? (m : IntervalMap α) (code : Nat) : Option (Nat × α) :=
  m.search code 0 m.entries.size

def contains (m : IntervalMap α) (code : Nat) : Bool :=
  (m.find? code).isSome

end IntervalMap

-- A set of code points given by its intervals.
abbrev IntervalSet := IntervalMap Unit

def IntervalSet.ofList (intervals : List (Nat × Nat)) : IntervalSet :=
  ⟨(intervals.map fun (first, last) => (first, last, ())).toArray⟩

end TableSchema.Text
