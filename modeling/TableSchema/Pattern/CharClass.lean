import TableSchema.Text.Blank
import TableSchema.Text.Digit
import TableSchema.Text.Letter
import TableSchema.Text.Case

namespace TableSchema.Pattern

open TableSchema.Text

-- How the characters of a pattern are read at a place of it.
structure Mode where
  ignoreCase : Bool
  multiline : Bool
  dotAll : Bool
  ascii : Bool
  deriving DecidableEq, Repr

inductive Category
  | digit
  | space
  | word
  deriving DecidableEq, Repr

-- Members of a bracketed class. Code points are numbers, since an escape may
-- name a surrogate, which no text holds.
inductive Member
  | one (code : Nat)
  | range (low high : Nat)
  | category (kind : Category) (negated : Bool)
  deriving DecidableEq, Repr

-- The parts of a pattern that stand for exactly one character.
inductive CharClass
  | any
  | one (code : Nat)
  | notOne (code : Nat)
  | set (negated : Bool) (members : List Member)
  deriving DecidableEq, Repr

def Category.contains (mode : Mode) (c : Char) : Category → Bool
  | .digit => if mode.ascii then isAsciiDigit c else isDecimalDigit c
  | .space => if mode.ascii then isAsciiBlank c else isBlank c
  | .word =>
    if mode.ascii then isAsciiLetter c || isAsciiDigit c || c == '_' else isWordChar c

/-! Letter case -/

-- Lower case letters that share an upper case form.
def caseClasses : List (List Nat) := [
  [0x69, 0x131], [0x73, 0x17F], [0xB5, 0x3BC], [0x345, 0x3B9, 0x1FBE], [0x390, 0x1FD3],
  [0x3B0, 0x1FE3], [0x3B2, 0x3D0], [0x3B5, 0x3F5], [0x3B8, 0x3D1], [0x3BA, 0x3F0], [0x3C0, 0x3D6],
  [0x3C1, 0x3F1], [0x3C2, 0x3C3], [0x3C6, 0x3D5], [0x432, 0x1C80], [0x434, 0x1C81],
  [0x43E, 0x1C82], [0x441, 0x1C83], [0x442, 0x1C84, 0x1C85], [0x44A, 0x1C86], [0x463, 0x1C87],
  [0x1C88, 0xA64B], [0x1E61, 0x1E9B], [0xFB05, 0xFB06]]

-- The lower case letters that count as `code`, itself included.
def caseClass (code : Nat) : List Nat :=
  match caseClasses.find? (·.contains code) with
  | some letters => letters
  | none => [code]

-- The form in which characters are compared when case is ignored.
def Mode.lower (mode : Mode) (code : Nat) : Nat :=
  if mode.ascii then asciiLowerCode code else lowerCode code

-- The lower case letters that a lower case letter matches.
def Mode.kin (mode : Mode) (code : Nat) : List Nat :=
  if mode.ascii then [code] else caseClass code

def Mode.sources (mode : Mode) (code : Nat) : List Nat :=
  if mode.ascii then
    (if 0x61 ≤ code ∧ code ≤ 0x7A then [code, code - 0x20]
      else if 0x41 ≤ code ∧ code ≤ 0x5A then [] else [code])
  else lowerSources code

def Mode.sameLetter (mode : Mode) (code other : Nat) : Bool :=
  if mode.ignoreCase then (mode.kin (mode.lower code)).contains (mode.lower other)
  else code == other

-- The last code point whose case variants a class spells out.
def lastOfPlane : Nat := 0xFFFF

def inRange (low high code : Nat) : Bool :=
  low ≤ code && code ≤ high

-- Whether the lower case letter `code` belongs to a class with a member. Above
-- the first plane single members stand for themselves, and ranges for their
-- letters in either case.
def Member.containsLower (mode : Mode) (code : Nat) : Member → Bool
  | .one member =>
    if lastOfPlane < member then member == code
    else (mode.kin (mode.lower member)).contains code
  | .range low high =>
    ((mode.kin code).any fun letter =>
      (mode.sources letter).any (inRange low (min high lastOfPlane))) ||
      (decide (lastOfPlane < high) && (inRange low high code || inRange low high (upperCode code)))
  | .category kind negated => kind.contains mode (Char.ofNat code) != negated

def Member.contains (mode : Mode) (c : Char) : Member → Bool
  | .one member => member == c.toNat
  | .range low high => inRange low high c.toNat
  | .category kind negated => kind.contains mode c != negated

def CharClass.contains (mode : Mode) (c : Char) : CharClass → Bool
  | .any => mode.dotAll || c != '\n'
  | .one code => mode.sameLetter code c.toNat
  | .notOne code => !mode.sameLetter code c.toNat
  | .set negated members =>
    if mode.ignoreCase then
      members.any (Member.containsLower mode (mode.lower c.toNat)) != negated
    else members.any (Member.contains mode c) != negated

end TableSchema.Pattern
