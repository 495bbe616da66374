import TableSchema.Csv.Reader
import TableSchema.Encoding.Decode
import TableSchema.Location
import TableSchema.Message

namespace TableSchema.Csv

open TableSchema.Encoding

-- A file with a table: its path, its content, the name of its codec, the delimiter
-- of its fields, and how files in other codecs are decoded.
structure Source where
  path : String
  content : List UInt8
  encoding : String
  delimiter : String
  decoders : String → Decoder := fun _ => .undefined

def defaultEncoding : String := "utf-8"

-- Why a path leads to no table.
inductive OpenFault
  | missing (path : String)
  | notFile (path : String)
  | denied (path : String)
  | tooLong
  deriving DecidableEq, Repr

def OpenFault.message : OpenFault → String
  | .missing path => "File does not exist: " ++ path
  | .notFile path => "Path exists but is not a file: " ++ path
  | .denied path => "[Errno 13] Permission denied: " ++ Text.quoted path
  | .tooLong => "File name too long"

-- Without a name of a codec the default is taken.
def Source.ofPath (files : FileTree) (path : String) (encoding : String) (delimiter : String) :
    Except OpenFault Source :=
  let location := Location.ofText path
  match location.find? files with
  | .error .denied => .error (.denied location.render)
  | .error .tooLong => .error .tooLong
  | .ok none => .error (.missing location.render)
  | .ok (some (.file content)) =>
    .ok {
      path := location.render, content, delimiter, decoders := files.decoders
      encoding := if encoding.isEmpty then defaultEncoding else encoding }
  | .ok (some _) => .error (.notFile location.render)

-- Why a table cannot be read to its end.
inductive ReadFault
  | unknownEncoding (name : String)
  | notText (name : String)
  | delimiter
  | noByteOrderMark
  | broken (text : String)
  | malformed (path : String) (flaw : Flaw)
  | refused (path : String) (text : String)
  | fieldTooLarge (path : String)
  deriving DecidableEq, Repr

def ReadFault.message : ReadFault → String
  | .unknownEncoding name => unknownText name
  | .notText name => notTextText name
  | .delimiter => "\"delimiter\" must be a 1-character string"
  | .noByteOrderMark => Encoding.Fault.noByteOrderMark.message
  | .broken text => text
  | .malformed path flaw => "Failed to parse CSV file " ++ path ++ ": " ++ flaw.message
  | .refused path text => "Failed to parse CSV file " ++ path ++ ": " ++ text
  | .fieldTooLarge path =>
    "Failed to parse CSV file " ++ path ++ ": field larger than field limit (" ++
      toString Record.fieldLimit ++ ")"

-- The faults that are told as failures of the file. The others are those of a codec that
-- does not say which bytes are at fault, or of what was asked for.
def ReadFault.isParseFailure : ReadFault → Bool
  | .malformed _ _ | .refused _ _ | .fieldTooLarge _ => true
  | _ => false

-- The rows that a source delivers, and the fault that ends them if there is one.
structure Rows where
  rows : List Row
  fault : Option ReadFault
  deriving DecidableEq, Repr

def ReadFault.ofDecoding (path : String) : Encoding.Fault → ReadFault
  | .malformed flaw => .malformed path flaw
  | .noByteOrderMark => .noByteOrderMark
  | .refused text => .refused path text
  | .broken text => .broken text

-- The rows of a text behind which reading goes on or fails. An unfinished
-- record counts only at the end of the file.
def rowsOfStream (path : String) (delimiter : Char) (stream : Stream) : Rows :=
  let found := scan delimiter stream.text
  match found.last, stream.fault with
  | none, _ => ⟨found.rows, some (.fieldTooLarge path)⟩
  | some _, some fault => ⟨found.rows, some (.ofDecoding path fault)⟩
  | some record, none => ⟨found.rows ++ record.remaining?.toList, none⟩

namespace Source

-- A file whose character set is written in UTF-8, with or without a mark.
def isUtf8 (source : Source) : Except ReadFault Bool :=
  match Codec.ofName? source.encoding with
  | none => .error (.unknownEncoding source.encoding)
  | some codec => .ok (codec == .charset .utf8 || codec == .charset .utf8Signed)

-- A mark in front of a table in UTF-8 is always dropped.
def streamCharset (charset : Charset) : Charset :=
  if charset == .utf8 then .utf8Signed else charset

-- The text of the file as it is read in its codec.
def stream (source : Source) : Except ReadFault Stream :=
  match Codec.ofName? source.encoding with
  | none => .error (.unknownEncoding source.encoding)
  | some .binary => .error (.notText source.encoding)
  | some (.charset charset) => .ok (decodeStream (streamCharset charset) source.content)
  | some (.other name) => .ok ((source.decoders name).stream source.content)

def rows (source : Source) : Rows :=
  match source.stream with
  | .error fault => ⟨[], some fault⟩
  | .ok stream =>
    match source.delimiter.toList with
    | [delimiter] => rowsOfStream source.path delimiter stream
    | _ => ⟨[], some .delimiter⟩

-- The number of rows, if all of them can be read.
def countRows (source : Source) : Except ReadFault Nat :=
  let read := source.rows
  match read.fault with
  | some fault => .error fault
  | none => .ok read.rows.length

end Source

/-! Checking that a file is well-formed -/

-- `line` holds the bytes of the current line and `lines` the lines before it,
-- both with the last one first.
def byteLinesFrom (line : List UInt8) (lines : List (List UInt8)) : List UInt8 → List (List UInt8)
  | [] => ((if line.isEmpty then lines else line.reverse :: lines)).reverse
  | byte :: rest =>
    if byte = 0x0A then byteLinesFrom [] ((byte :: line).reverse :: lines) rest
    else byteLinesFrom (byte :: line) lines rest

-- The lines of some bytes, each with the line feed that ends it.
def byteLines (bytes : List UInt8) : List (List UInt8) :=
  byteLinesFrom [] [] bytes

def utf8Message (line column : Nat) : Message where
  severity := .error
  text := "[UTF-8 Error][@" ++ toString line ++ ":" ++ toString column ++ "] Invalid UTF-8 sequence"
  line := some line
  column := some (.position column)
  culprit := some "UTF-8"

-- The report on a line with its number, if it is ill-formed.
def lineMessage? (line : List UInt8) (number : Nat) : Option Message :=
  (Text.Utf8.decode line).fault.map fun fault => utf8Message number (fault.position + 1)

def utf8Messages (content : List UInt8) : List Message :=
  ((byteLines content).zipIdx 1).filterMap fun (line, number) => lineMessage? line number

-- One report for each ill-formed line of a file in UTF-8. Other files have none.
def Source.checkUtf8 (source : Source) : Except ReadFault (List Message) := do
  if ← source.isUtf8 then return utf8Messages source.content else return []

end TableSchema.Csv
