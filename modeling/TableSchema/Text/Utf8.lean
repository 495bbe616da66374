namespace TableSchema.Text.Utf8

/-! Writing -/

def encodeChar (c : Char) : List UInt8 :=
  let code := c.toNat
  if code < 0x80 then [code.toUInt8]
  else if code < 0x800 then [(0xC0 + code / 0x40).toUInt8, (0x80 + code % 0x40).toUInt8]
  else if code < 0x10000 then
    [(0xE0 + code / 0x1000).toUInt8, (0x80 + code / 0x40 % 0x40).toUInt8,
      (0x80 + code % 0x40).toUInt8]
  else
    [(0xF0 + code / 0x40000).toUInt8, (0x80 + code / 0x1000 % 0x40).toUInt8,
      (0x80 + code / 0x40 % 0x40).toUInt8, (0x80 + code % 0x40).toUInt8]

def encode (cs : List Char) : List UInt8 :=
  cs.flatMap encodeChar

/-! Reading -/

-- Why bytes are not well-formed. `truncated` means that they end too early.
inductive Flaw
  | invalidStart
  | invalidContinuation
  | truncated
  deriving DecidableEq, Repr

-- What a lead byte announces: how many bytes follow, and which values the first
-- of them may have. The bounds keep out overlong forms, surrogates and code
-- points beyond the last one.
def announced? (lead : UInt8) : Option (Nat × UInt8 × UInt8) :=
  if 0xC2 ≤ lead ∧ lead ≤ 0xDF then some (1, 0x80, 0xBF)
  else if lead = 0xE0 then some (2, 0xA0, 0xBF)
  else if lead = 0xED then some (2, 0x80, 0x9F)
  else if 0xE1 ≤ lead ∧ lead ≤ 0xEF then some (2, 0x80, 0xBF)
  else if lead = 0xF0 then some (3, 0x90, 0xBF)
  else if 0xF1 ≤ lead ∧ lead ≤ 0xF3 then some (3, 0x80, 0xBF)
  else if lead = 0xF4 then some (3, 0x80, 0x8F)
  else none

-- The bits of the code point that a lead byte with so many followers holds.
def leadBits (lead : UInt8) : Nat → Nat
  | 1 => lead.toNat % 0x20
  | 2 => lead.toNat % 0x10
  | _ => lead.toNat % 0x08

-- What stands in front of some bytes: a character, or the longest beginning of
-- one that does not go on. Both come with the number of their bytes.
inductive Reading
  | char (c : Char) (length : Nat)
  | flawed (flaw : Flaw) (length : Nat)
  deriving DecidableEq, Repr

-- Reads `count` more bytes, the next of which lies between the bounds. `used`
-- bytes have been read.
def follow (low high : UInt8) (code used : Nat) : Nat → List UInt8 → Reading
  | 0, _ => .char (Char.ofNat code) used
  | _ + 1, [] => .flawed .truncated used
  | count + 1, byte :: rest =>
    if low ≤ byte ∧ byte ≤ high then
      follow 0x80 0xBF (0x40 * code + (byte.toNat - 0x80)) (used + 1) count rest
    else .flawed .invalidContinuation used

def readChar (lead : UInt8) (rest : List UInt8) : Reading :=
  if lead < 0x80 then .char (Char.ofNat lead.toNat) 1
  else match announced? lead with
    | none => .flawed .invalidStart 1
    | some (count, low, high) => follow low high (leadBits lead count) 1 count rest

-- Where the first ill-formed part begins, how many bytes it has, and its flaw.
structure Fault where
  position : Nat
  length : Nat
  flaw : Flaw
  deriving DecidableEq, Repr

-- The text in front of the first ill-formed part, and that part if there is one.
structure Decoded where
  text : List Char
  fault : Option Fault
  deriving DecidableEq, Repr

-- `reversed` holds the characters read so far, the last one first. The next
-- `skip` bytes belong to the last of them.
def decodeFrom (reversed : List Char) (position skip : Nat) : List UInt8 → Decoded
  | [] => ⟨reversed.reverse, none⟩
  | byte :: rest =>
    match skip with
    | skip + 1 => decodeFrom reversed (position + 1) skip rest
    | 0 =>
      match readChar byte rest with
      | .char c length => decodeFrom (c :: reversed) (position + 1) (length - 1) rest
      | .flawed flaw length => ⟨reversed.reverse, some ⟨position, length, flaw⟩⟩

def decode (bytes : List UInt8) : Decoded :=
  decodeFrom [] 0 0 bytes

-- Stands for an ill-formed part of a text.
def replacement : Char := '\uFFFD'

def decodeLossyFrom (skip : Nat) : List UInt8 → List Char
  | [] => []
  | byte :: rest =>
    match skip with
    | skip + 1 => decodeLossyFrom skip rest
    | 0 =>
      match readChar byte rest with
      | .char c length => c :: decodeLossyFrom (length - 1) rest
      | .flawed _ length => replacement :: decodeLossyFrom (length - 1) rest

-- The text of the bytes with a replacement for each ill-formed part.
def decodeLossy (bytes : List UInt8) : List Char :=
  decodeLossyFrom 0 bytes

end TableSchema.Text.Utf8
