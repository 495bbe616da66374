namespace TableSchema.Csv

abbrev Row := List String

-- Where the reader stands within a record. At `ended` the record is complete
-- and the line has yet to end.
inductive Phase
  | recordStart
  | fieldStart
  | inField
  | inQuotes
  | afterQuote
  | ended
  deriving DecidableEq, Repr

-- The record so far: its fields, the last one first, and the characters of the
-- current field, the last one first, with their number.
structure Record where
  phase : Phase
  fields : List String
  current : List Char
  size : Nat
  deriving DecidableEq, Repr

namespace Record

def start : Record :=
  { phase := .recordStart, fields := [], current := [], size := 0 }

def saveField (record : Record) (phase : Phase) : Record :=
  { phase, fields := String.ofList record.current.reverse :: record.fields, current := [], size := 0 }

def row (record : Record) : Row :=
  record.fields.reverse

-- A field may not grow beyond this many characters.
def fieldLimit : Nat := 131072

def addChar? (record : Record) (phase : Phase) (c : Char) : Option Record :=
  if fieldLimit ≤ record.size then none
  else some { record with phase, current := c :: record.current, size := record.size + 1 }

def isLineEnd (c : Char) : Bool :=
  c == '\n' || c == '\r'

def quote : Char := '"'

-- A character where a field begins.
def beginField? (delimiter c : Char) (record : Record) : Option Record :=
  if isLineEnd c then some (record.saveField .ended)
  else if c = quote then some { record with phase := .inQuotes }
  else if c = delimiter then some (record.saveField .fieldStart)
  else record.addChar? .inField c

-- The record after one more character, or nothing if a field grows too large. A
-- quote within quotes is written twice. Behind a closing quote a field may go
-- on without quotes.
def step? (delimiter c : Char) (record : Record) : Option Record :=
  match record.phase with
  | .recordStart =>
    if isLineEnd c then some { record with phase := .ended } else record.beginField? delimiter c
  | .fieldStart => record.beginField? delimiter c
  | .inField =>
    if isLineEnd c then some (record.saveField .ended)
    else if c = delimiter then some (record.saveField .fieldStart)
    else record.addChar? .inField c
  | .inQuotes =>
    if c = quote then some { record with phase := .afterQuote } else record.addChar? .inQuotes c
  | .afterQuote =>
    if c = quote then record.addChar? .inQuotes c
    else if c = delimiter then some (record.saveField .fieldStart)
    else if isLineEnd c then some (record.saveField .ended)
    else record.addChar? .inField c
  | .ended => some record

-- The row that is complete when a line ends here. Within quotes the record goes
-- on in the next line.
def completed? (record : Record) : Option Row :=
  match record.phase with
  | .inQuotes => none
  | .recordStart | .ended => some record.row
  | .fieldStart | .inField | .afterQuote => some (record.saveField .ended).row

-- The row that is left when the text ends here.
def remaining? (record : Record) : Option Row :=
  match record.phase with
  | .recordStart => none
  | .ended => some record.row
  | _ => some (record.saveField .ended).row

end Record

-- Whether a line ends with the character. A carriage return and a line feed
-- behind it end one line together.
def endsLine (c : Char) (rest : List Char) : Bool :=
  c == '\n' || (c == '\r' && rest.head? != some '\n')

-- The rows read before the end of a text, and the record it leaves unfinished.
-- There is none if a field has grown too large.
structure Scan where
  rows : List Row
  last : Option Record
  deriving DecidableEq, Repr

-- `rows` holds the rows read so far, the last one first.
def scanFrom (delimiter : Char) (record : Record) (rows : List Row) : List Char → Scan
  | [] => ⟨rows.reverse, some record⟩
  | c :: rest =>
    match record.step? delimiter c with
    | none => ⟨rows.reverse, none⟩
    | some record =>
      if endsLine c rest then
        match record.completed? with
        | some row => scanFrom delimiter Record.start (row :: rows) rest
        | none => scanFrom delimiter record rows rest
      else scanFrom delimiter record rows rest

def scan (delimiter : Char) (text : List Char) : Scan :=
  scanFrom delimiter Record.start [] text

end TableSchema.Csv
