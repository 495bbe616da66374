import TableSchema.Text.Interval

namespace TableSchema.Text

-- The white space of Unicode: the separators and the controls that act as one.
def blanks : IntervalSet := IntervalSet.ofList [
  (0x9, 0xD), (0x1C, 0x20), (0x85, 0x85), (0xA0, 0xA0), (0x1680, 0x1680), (0x2000, 0x200A),
  (0x2028, 0x2029), (0x202F, 0x202F), (0x205F, 0x205F), (0x3000, 0x3000)]

def isBlank (c : Char) : Bool :=
  blanks.contains c.toNat

-- White space when the text at hand holds ASCII only.
def isAsciiBlank (c : Char) : Bool :=
  c == ' ' || ('\t' ≤ c && c ≤ '\r')

def isAscii (c : Char) : Bool :=
  c.toNat < 0x80

-- `cs` without the characters of the class at both ends.
def trim (drop : Char → Bool) (cs : List Char) : List Char :=
  ((cs.dropWhile drop).reverse.dropWhile drop).reverse

def strip (cs : List Char) : List Char :=
  trim isBlank cs

-- A line that holds nothing but white space carries no meaning in a schema.
def isBlankLine (cs : List Char) : Bool :=
  cs.all isBlank

end TableSchema.Text
