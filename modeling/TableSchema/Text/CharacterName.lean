import Std.Data.HashMap
import TableSchema.Text.CharacterName.Table
import TableSchema.Text.Digit
import TableSchema.Text.Split

namespace TableSchema.Text

/-! Written names -/

-- A code point with the words of its name.
structure NamedCode where
  code : Nat
  words : List String
  deriving DecidableEq

-- The code point and name that are written behind those before.
def NamedCode.next (before : NamedCode) (written : List Char) : NamedCode :=
  let (code, written) := match splitAt ':' written with
    | [digits, written] => (valueIn 16 digits, written)
    | _ => (before.code + 1, written)
  let (written, kept) := match splitAt '+' written with
    | [written, digits] => (written, valueIn 10 digits)
    | _ => (written, 0)
  let front := written.takeWhile isAsciiDigit
  let own := written.drop front.length
  let words := if own.isEmpty then [] else (splitAt ' ' own).map String.ofList
  { code
    words := before.words.take (valueIn 10 front) ++ words ++
      before.words.drop (before.words.length - kept) }

-- The table with all names of a text, by which their code points are found.
def addNames (table : Std.HashMap String Nat) (names : String) : Std.HashMap String Nat :=
  let add (state : NamedCode × Std.HashMap String Nat) (written : String) :=
    let next := state.1.next (written.toList.dropWhile Char.isWhitespace)
    (next, state.2.insert (String.intercalate " " next.words) next.code)
  ((names.splitOn ",").foldl add (⟨0, []⟩, table)).2

def characterTable : Std.HashMap String Nat :=
  addNames (addNames ∅ characterNames) characterAliases

/-! Names that are made of a code point -/

def isUpperHexDigit (c : Char) : Bool :=
  isAsciiDigit c || ('A' ≤ c && c ≤ 'F')

-- The code point at the end of a name, in four or five digits.
def codeBehind? (front : String) (name : List Char) : Option Nat :=
  match afterFront? front.toList name with
  | none => none
  | some digits =>
    if digits.all isUpperHexDigit && (digits.length == 4 || digits.length == 5) then
      some (valueIn 16 digits)
    else none

def unifiedIdeographs : IntervalSet := .ofList [
  (0x3400, 0x4DBF), (0x4E00, 0x9FFF), (0x20000, 0x2A6DF), (0x2A700, 0x2B738), (0x2B740, 0x2B81D),
  (0x2B820, 0x2CEA1), (0x2CEB0, 0x2EBE0), (0x30000, 0x3134A)]

-- A code point of four digits may have a zero in front of it.
def ideograph? (name : List Char) : Option Nat :=
  (codeBehind? "CJK UNIFIED IDEOGRAPH-" name).filter unifiedIdeographs.contains

-- The other families of names that are made of a code point, which has no zeros in front.
def codedNames : List (String × IntervalSet) := [
  ("CJK COMPATIBILITY IDEOGRAPH-",
    .ofList [(0xF900, 0xFA6D), (0xFA70, 0xFAD9), (0x2F800, 0x2FA1D)]),
  ("KHITAN SMALL SCRIPT CHARACTER-", .ofList [(0x18B00, 0x18CD5)]),
  ("NUSHU CHARACTER-", .ofList [(0x1B170, 0x1B2FB)])]

def codedCharacter? (name : List Char) : Option Nat :=
  codedNames.findSome? fun (front, codes) => (codeBehind? front name).filter fun code =>
    codes.contains code && name.length == front.length + if code < 0x10000 then 4 else 5

/-! Names of syllables -/

-- The sounds of a syllable are an initial, a vowel and a final one.
def initialSounds : List String :=
  ["G", "GG", "N", "D", "DD", "R", "M", "B", "BB", "S", "SS", "", "J", "JJ", "C", "K", "T", "P", "H"]

def vowelSounds : List String :=
  ["A", "AE", "YA", "YAE", "EO", "E", "YEO", "YE", "O", "WA", "WAE", "OE", "YO", "U", "WEO", "WE",
    "WI", "YU", "EU", "YI", "I"]

def finalSounds : List String :=
  ["", "G", "GG", "GS", "N", "NJ", "NH", "D", "L", "LG", "LM", "LB", "LS", "LT", "LP", "LH", "M",
    "B", "BS", "S", "SS", "NG", "J", "C", "K", "T", "P", "H"]

-- The syllables in the order of their code points.
def syllables : List String :=
  initialSounds.flatMap fun initial => vowelSounds.flatMap fun vowel =>
    finalSounds.map fun final => initial ++ vowel ++ final

def firstSyllable : Nat := 0xAC00

def syllable? (name : List Char) : Option Nat :=
  match afterFront? "HANGUL SYLLABLE ".toList name with
  | none => none
  | some sounds => (syllables.idxOf? (String.ofList sounds)).map (firstSyllable + ·)

/-! All names -/

-- Letter case matters only in the names of ideographs and syllables.
def characterNamed? (name : String) : Option Nat :=
  let upper := name.map Char.toUpper
  ideograph? name.toList <|> syllable? name.toList <|> codedCharacter? upper.toList <|>
    characterTable[upper]?

end TableSchema.Text
