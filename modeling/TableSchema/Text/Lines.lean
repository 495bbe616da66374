namespace TableSchema.Text

-- The characters that end a line of a schema. A carriage return and the line
-- feed behind it end one line together.
def isLineBreak (c : Char) : Bool :=
  c == '\n' || c == '\r' || c == '\x0B' || c == '\x0C' || c == '\x1C' || c == '\x1D' ||
    c == '\x1E' || c == '\u0085' || c == '\u2028' || c == '\u2029'

-- `line` holds the characters of the current line, the last one first.
def splitLinesFrom (line : List Char) : List Char → List (List Char)
  | [] => if line.isEmpty then [] else [line.reverse]
  | '\r' :: '\n' :: rest => line.reverse :: splitLinesFrom [] rest
  | c :: rest =>
    if isLineBreak c then line.reverse :: splitLinesFrom [] rest
    else splitLinesFrom (c :: line) rest

-- The lines of a text without their ends. A break at the very end opens no
-- further line.
def splitLines (cs : List Char) : List (List Char) :=
  splitLinesFrom [] cs

def byteOrderMark : Char := '\uFEFF'

-- One byte order mark in front of the text is no part of it.
def dropByteOrderMark : List Char → List Char
  | c :: rest => if c == byteOrderMark then rest else c :: rest
  | [] => []

-- Writes every carriage return, alone or before a line feed, as one line feed.
def unifyLineEnds : List Char → List Char
  | [] => []
  | '\r' :: '\n' :: rest => '\n' :: unifyLineEnds rest
  | '\r' :: rest => '\n' :: unifyLineEnds rest
  | c :: rest => c :: unifyLineEnds rest

-- The part of an unfinished text that is made of whole lines. A carriage
-- return at its end may still be the first half of a line end.
def wholeLines (cs : List Char) : List Char :=
  match cs.reverse with
  | '\r' :: rest => (rest.dropWhile fun c => c != '\n' && c != '\r').reverse
  | reversed => (reversed.dropWhile fun c => c != '\n' && c != '\r').reverse

end TableSchema.Text
