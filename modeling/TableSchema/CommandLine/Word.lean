import TableSchema.CommandLine.Flag
import TableSchema.Text.Digit

namespace TableSchema.CommandLine

open TableSchema.Text

-- A flag as it stands in a word: whether it has one letter behind one hyphen,
-- and the text that is joined to it, behind an equals sign or without one.
structure Spelling where
  flag : Flag
  isShort : Bool
  joined : Option (List Char)
  byEquals : Bool
  deriving DecidableEq, Repr

-- What a word of a command line is.
inductive Word
  | argument (text : String)
  | flag (spelling : Spelling)
  | unknown
  deriving DecidableEq, Repr

-- A word that may begin several flags.
inductive Ambiguity
  | ambiguous
  deriving DecidableEq, Repr

def plainSpelling (flag : Flag) : Spelling where
  flag := flag
  isShort := false
  joined := none
  byEquals := false

-- The text in front of the first equals sign, and the text behind it if there is one.
def splitEquals (cs : List Char) : List Char × Option (List Char) :=
  match cs.dropWhile (· != '=') with
  | _ :: behind => (cs.takeWhile (· != '='), some behind)
  | [] => (cs, none)

-- A long flag may be cut short.
def longCandidates (cs : List Char) : List Spelling :=
  let (front, joined) := splitEquals cs
  (flagNames.filter fun (name, _) => front.isPrefixOf name.toList).map fun (_, flag) =>
    { flag, isShort := false, joined, byEquals := joined.isSome }

-- A short flag may have text joined to it.
def shortCandidates (cs : List Char) : List Spelling :=
  (flagNames.filter fun (name, _) => name.toList = cs.take 2).map fun (_, flag) =>
    { flag, isShort := true, joined := some (cs.drop 2), byEquals := false }

def candidates (cs : List Char) : List Spelling :=
  match cs with
  | '-' :: '-' :: _ => longCandidates cs
  | _ => shortCandidates cs

-- Digits behind a hyphen, perhaps with a point among them and a line end behind them.
def isNegativeNumber (cs : List Char) : Bool :=
  let cs := if cs.getLast? = some '\n' then cs.dropLast else cs
  match cs with
  | '-' :: number =>
    match number.dropWhile isDecimalDigit with
    | '.' :: fraction => !fraction.isEmpty && fraction.all isDecimalDigit
    | rest => rest.isEmpty && !number.isEmpty
  | _ => false

-- The flag that is written in full, perhaps with text behind an equals sign.
def fullSpelling? (cs : List Char) : Option Spelling :=
  let isShort := cs[1]? != some '-'
  match flagNamed? (String.ofList cs) with
  | some flag => some { flag, isShort, joined := none, byEquals := false }
  | none =>
    match splitEquals cs with
    | (front, some behind) =>
      (flagNamed? (String.ofList front)).map fun flag =>
        { flag, isShort, joined := some behind, byEquals := true }
    | (_, none) => none

-- What a word with a hyphen and more is.
def Word.ofHyphened (cs : List Char) : Except Ambiguity Word :=
  match fullSpelling? cs with
  | some spelling => .ok (.flag spelling)
  | none =>
    match candidates cs with
    | [spelling] => .ok (.flag spelling)
    | [] =>
      if isNegativeNumber cs || cs.contains ' ' then .ok (.argument (String.ofList cs))
      else .ok .unknown
    | _ => .error .ambiguous

-- A hyphen by itself is an argument.
def Word.ofText (text : String) : Except Ambiguity Word :=
  match text.toList with
  | '-' :: c :: rest => Word.ofHyphened ('-' :: c :: rest)
  | _ => .ok (.argument text)

def separator : String := "--"

-- A command line up to the separator, and the arguments behind it if there is one.
structure Line where
  words : List Word
  behind : Option (List String)
  deriving DecidableEq, Repr

def Line.ofTexts : List String → Except Ambiguity Line
  | [] => .ok ⟨[], none⟩
  | text :: rest =>
    if text = separator then .ok ⟨[], some rest⟩
    else do
      let word ← Word.ofText text
      let line ← Line.ofTexts rest
      return { line with words := word :: line.words }

end TableSchema.CommandLine
