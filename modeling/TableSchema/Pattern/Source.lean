import TableSchema.Pattern.Fault

namespace TableSchema.Pattern

-- One sign of a pattern: a character, or an escaping backslash with the
-- character behind it.
inductive Sign
  | plain (c : Char)
  | escaped (c : Char)
  deriving DecidableEq, Repr

namespace Sign

def text : Sign → String
  | .plain c => c.toString
  | .escaped c => String.ofList ['\\', c]

def length : Sign → Nat
  | .plain _ => 1
  | .escaped _ => 2

def isPlain (p : Char → Bool) : Sign → Bool
  | .plain c => p c
  | .escaped _ => false

end Sign

-- What is left of a pattern: the next sign, the text behind it, and the
-- position where that text begins.
structure Source where
  next : Option Sign
  rest : List Char
  index : Nat
  deriving Repr

namespace Source

def position (s : Source) : Nat :=
  s.index - (s.next.map Sign.length).getD 0

def advance (s : Source) : Except Fault Source :=
  match s.rest with
  | [] => .ok { s with next := none }
  | '\\' :: [] => .error (.malformed .danglingEscape (some s.index))
  | '\\' :: c :: rest => .ok { next := some (.escaped c), rest, index := s.index + 2 }
  | c :: rest => .ok { next := some (.plain c), rest, index := s.index + 1 }

def ofText (cs : List Char) : Except Fault Source :=
  advance { next := none, rest := cs, index := 0 }

-- An upper bound of the number of signs left.
def size (s : Source) : Nat :=
  s.rest.length + 1

end Source

end TableSchema.Pattern
