import TableSchema.Text.Lines
import TableSchema.Text.Quoted
import TableSchema.Text.Utf8
import TableSchema.Encoding.Charset

namespace TableSchema.Encoding

open TableSchema.Text

-- Why bytes are no text of a character set.
inductive Reason
  | utf8 (flaw : Utf8.Flaw)
  | notAscii
  | undefined
  | loneSurrogate
  | brokenPair
  | halfUnit
  | halfPair
  deriving DecidableEq, Repr

def Reason.message : Reason → String
  | .utf8 .invalidStart => "invalid start byte"
  | .utf8 .invalidContinuation => "invalid continuation byte"
  | .utf8 .truncated => "unexpected end of data"
  | .notAscii => "ordinal not in range(128)"
  | .undefined => "character maps to <undefined>"
  | .loneSurrogate => "illegal encoding"
  | .brokenPair => "illegal UTF-16 surrogate"
  | .halfUnit => "truncated data"
  | .halfPair => "unexpected end of data"

-- Whether more bytes could have made the text whole.
def Reason.isIncomplete : Reason → Bool
  | .utf8 .truncated => true
  | .halfUnit => true
  | .halfPair => true
  | _ => false

-- The part of some bytes that is no text: where it begins, how many bytes it
-- has, and the first of them.
structure Flaw where
  codec : String
  position : Nat
  length : Nat
  byte : UInt8
  reason : Reason
  deriving DecidableEq, Repr

-- Text in two bytes a character needs a byte order mark if its name does not
-- say the order. A decoder from elsewhere refuses bytes that are no text, or
-- breaks for a reason of its own.
inductive Fault
  | malformed (flaw : Flaw)
  | noByteOrderMark
  | refused (text : String)
  | broken (text : String)
  deriving DecidableEq, Repr

def Flaw.message (flaw : Flaw) : String :=
  "'" ++ flaw.codec ++ "' codec can't decode " ++
    (if flaw.length = 1 then
      "byte 0x" ++ String.ofList (hexDigits 2 flaw.byte.toNat) ++ " in position " ++
        toString flaw.position
    else
      "bytes in position " ++ toString flaw.position ++ "-" ++
        toString (flaw.position + flaw.length - 1)) ++
    ": " ++ flaw.reason.message

def Fault.message : Fault → String
  | .malformed flaw => flaw.message
  | .noByteOrderMark => "UTF-16 stream does not start with BOM"
  | .refused text => text
  | .broken text => text

-- The text in front of the first flaw, and that flaw if there is one.
structure Decoded where
  text : List Char
  flaw : Option Flaw
  deriving DecidableEq, Repr

/-! Eight bits a character -/

-- Reads each byte by itself. A byte without a character is a flaw.
def decodeBytes (codec : String) (reason : Reason) (char? : UInt8 → Option Char)
    (reversed : List Char) (position : Nat) : List UInt8 → Decoded
  | [] => ⟨reversed.reverse, none⟩
  | byte :: rest =>
    match char? byte with
    | some c => decodeBytes codec reason char? (c :: reversed) (position + 1) rest
    | none => ⟨reversed.reverse, some { codec, position, length := 1, byte, reason }⟩

def asciiChar? (byte : UInt8) : Option Char :=
  if byte < 0x80 then some (Char.ofNat byte.toNat) else none

-- The characters from 0x80 to 0x9F, with a zero where there is none.
def windowsCodes : List Nat := [
  0x20AC, 0, 0x201A, 0x192, 0x201E, 0x2026, 0x2020, 0x2021, 0x2C6, 0x2030, 0x160, 0x2039, 0x152, 0,
  0x17D, 0, 0, 0x2018, 0x2019, 0x201C, 0x201D, 0x2022, 0x2013, 0x2014, 0x2DC, 0x2122, 0x161,
  0x203A, 0x153, 0, 0x17E, 0x178]

def windowsChar? (byte : UInt8) : Option Char :=
  if 0x80 ≤ byte ∧ byte ≤ 0x9F then
    match windowsCodes[byte.toNat - 0x80]? with
    | some 0 => none
    | some code => some (Char.ofNat code)
    | none => none
  else some (Char.ofNat byte.toNat)

/-! Sixteen bits a unit -/

def unit (bigEndian : Bool) (a b : UInt8) : Nat :=
  if bigEndian then 256 * a.toNat + b.toNat else 256 * b.toNat + a.toNat

def isHighSurrogate (unit : Nat) : Bool :=
  0xD800 ≤ unit && unit ≤ 0xDBFF

def isLowSurrogate (unit : Nat) : Bool :=
  0xDC00 ≤ unit && unit ≤ 0xDFFF

def decodeUnits (bigEndian : Bool) (reversed : List Char) (position : Nat) :
    List UInt8 → Decoded
  | [] => ⟨reversed.reverse, none⟩
  | [byte] => stop byte 1 .halfUnit
  | a :: b :: rest =>
    let first := unit bigEndian a b
    if isHighSurrogate first then
      match rest with
      | c :: d :: rest =>
        let second := unit bigEndian c d
        if isLowSurrogate second then
          let code := 0x10000 + 0x400 * (first - 0xD800) + (second - 0xDC00)
          decodeUnits bigEndian (Char.ofNat code :: reversed) (position + 4) rest
        else stop a 2 .brokenPair
      | rest => stop a (2 + rest.length) .halfPair
    else if isLowSurrogate first then stop a 2 .loneSurrogate
    else decodeUnits bigEndian (Char.ofNat first :: reversed) (position + 2) rest
where
  stop (byte : UInt8) (length : Nat) (reason : Reason) : Decoded :=
    let codec := if bigEndian then "utf-16-be" else "utf-16-le"
    ⟨reversed.reverse, some { codec, position, length, byte, reason }⟩

/-! Eight bits a unit -/

def decodeUtf8 (bytes : List UInt8) : Decoded :=
  let decoded := Utf8.decode bytes
  let flaw := decoded.fault.map fun fault => {
    codec := "utf-8", position := fault.position, length := fault.length,
    byte := bytes[fault.position]?.getD 0, reason := .utf8 fault.flaw }
  ⟨decoded.text, flaw⟩

-- The byte order mark in this encoding.
def utf8Mark : List UInt8 :=
  [0xEF, 0xBB, 0xBF]

-- Positions count from behind the mark. A beginning of the mark alone is no text.
def decodeSigned (bytes : List UInt8) : Decoded :=
  if utf8Mark.isPrefixOf bytes then decodeUtf8 (bytes.drop 3)
  else if bytes.length < 3 ∧ bytes.isPrefixOf utf8Mark then ⟨[], none⟩
  else decodeUtf8 bytes

/-! Character sets -/

-- Whether the text shows its byte order, and which one it is.
def byteOrder? : List UInt8 → Option Bool
  | 0xFF :: 0xFE :: _ => some false
  | 0xFE :: 0xFF :: _ => some true
  | _ => none

-- Without a mark the bytes are read low byte first.
def decodeMarked (bytes : List UInt8) : Decoded :=
  match byteOrder? bytes with
  | some bigEndian => decodeUnits bigEndian [] 2 (bytes.drop 2)
  | none => decodeUnits false [] 0 bytes

def decode (charset : Charset) (bytes : List UInt8) : Decoded :=
  match charset with
  | .utf8 => decodeUtf8 bytes
  | .utf8Signed => decodeSigned bytes
  | .ascii => decodeBytes "ascii" .notAscii asciiChar? [] 0 bytes
  | .latin1 => decodeBytes "latin-1" .undefined (fun byte => some (Char.ofNat byte.toNat)) [] 0 bytes
  | .windows1252 => decodeBytes "charmap" .undefined windowsChar? [] 0 bytes
  | .utf16 => decodeMarked bytes
  | .utf16Little => decodeUnits false [] 0 bytes
  | .utf16Big => decodeUnits true [] 0 bytes

-- Whether a mark is missing, given how many bytes make up whole characters.
def lacksMark (charset : Charset) (bytes : List UInt8) (whole : Nat) : Bool :=
  charset == .utf16 && (byteOrder? bytes).isNone && 2 ≤ whole

-- The text of a whole file.
def decodeFile (charset : Charset) (bytes : List UInt8) : Except Fault (List Char) :=
  let decoded := decode charset bytes
  match decoded.flaw with
  | some flaw => .error (.malformed flaw)
  | none =>
    if lacksMark charset bytes bytes.length then .error .noByteOrderMark
    else .ok decoded.text

-- What can be read of a file before it fails, and the failure.
structure Stream where
  text : List Char
  fault : Option Fault
  deriving DecidableEq, Repr

-- The number of bytes that are read of a file at once.
def chunkSize : Nat := 8192

-- The parts in which some bytes are read.
def chunks (bytes : List UInt8) : List (List UInt8) :=
  if bytes = [] then [] else bytes.take chunkSize :: chunks (bytes.drop chunkSize)
termination_by bytes.length
decreasing_by
  have := List.length_pos_iff.mpr ‹_›
  rw [List.length_drop, chunkSize]
  omega

-- In what a file goes on that begins with the bytes. Its start has settled the
-- byte order, and no mark follows any more.
def Charset.behind (charset : Charset) (bytes : List UInt8) : Charset :=
  match charset with
  | .utf8Signed => .utf8
  | .utf16 => if byteOrder? bytes = some true then .utf16Big else .utf16Little
  | charset => charset

-- What bytes come to that others may follow: the text in them, and the bytes at
-- their end that are no whole character yet.
structure Part where
  text : List Char
  rest : List UInt8
  deriving DecidableEq, Repr

def decodePart (charset : Charset) (bytes : List UInt8) : Except Fault Part :=
  let decoded := decode charset bytes
  match decoded.flaw with
  | none =>
    if lacksMark charset bytes bytes.length then .error .noByteOrderMark
    else .ok ⟨decoded.text, []⟩
  | some flaw =>
    if !flaw.reason.isIncomplete then .error (.malformed flaw)
    else if lacksMark charset bytes flaw.position then .error .noByteOrderMark
    else .ok ⟨decoded.text, bytes.drop (bytes.length - flaw.length)⟩

-- Reads on behind `text` and the bytes of an unfinished character. Where reading
-- fails, the whole lines before have been read. Positions count from the start
-- of what is decoded at once.
def streamFrom (charset : Charset) (text : List Char) (unfinished : List UInt8) :
    List (List UInt8) → Stream
  | [] =>
    match (decode charset unfinished).flaw with
    | none => ⟨text, none⟩
    | some flaw => ⟨wholeLines text, some (.malformed flaw)⟩
  | chunk :: chunks =>
    let bytes := unfinished ++ chunk
    match decodePart charset bytes with
    | .error fault => ⟨wholeLines text, some fault⟩
    | .ok part => streamFrom (charset.behind bytes) (text ++ part.text) part.rest chunks

-- The text of a file that is read from its start.
def decodeStream (charset : Charset) (bytes : List UInt8) : Stream :=
  streamFrom charset [] [] (chunks bytes)

/-! Other codecs -/

-- What a codec makes of a file that is read as a whole, and of one that is read
-- in parts.
structure Decoder where
  file : List UInt8 → Except Fault (List Char)
  stream : List UInt8 → Stream

-- The codec of this name breaks at whatever it is given.
def Decoder.undefined : Decoder where
  file _ := .error (.broken "undefined encoding")
  stream _ := { text := [], fault := some (.broken "undefined encoding") }

end TableSchema.Encoding
