import TableSchema.Text.Quoted

namespace TableSchema.Pattern

open TableSchema.Text

-- Why a text is no pattern. Texts in it are spellings of the pattern's parts.
inductive Cause
  | danglingEscape
  | incompleteEscape (escape : String)
  | badEscape (escape : String)
  | unknownCharacter (name : String)
  | octalTooLarge (escape : String)
  | missing (what : String)
  | unterminatedName (terminator : Char)
  | openGroup
  | groupOfLookbehind
  | noSuchGroup (number : Nat)
  | badGroupNumber
  | badGroupName (name : String)
  | unknownGroup (name : String)
  | redefinedGroup (name : String) (number previous : Nat)
  | unterminatedSet
  | badRange (low high : String)
  | leastAboveMost
  | nothingToRepeat
  | multipleRepeat
  | unexpectedEnd
  | unknownExtension (spelling : String)
  | unterminatedComment
  | unterminatedGroup
  | tooManyBranches
  | misplacedFlags
  | unknownFlag
  | localeFlag
  | mixedTypeFlags
  | turnedOnGlobal
  | turnedOffGlobal
  | turnedOffType
  | turnedOnAndOff
  | unbalanced
  | lookbehindTooLong
  | lookbehindNotFixed
  | templateRepeat (greed : String)
  deriving DecidableEq, Repr

def Cause.message : Cause → String
  | .danglingEscape => "bad escape (end of pattern)"
  | .incompleteEscape escape => "incomplete escape " ++ escape
  | .badEscape escape => "bad escape " ++ escape
  | .unknownCharacter name => "undefined character name " ++ quoted name
  | .octalTooLarge escape => "octal escape value " ++ escape ++ " outside of range 0-0o377"
  | .missing what => "missing " ++ what
  | .unterminatedName terminator => "missing " ++ terminator.toString ++ ", unterminated name"
  | .openGroup => "cannot refer to an open group"
  | .groupOfLookbehind => "cannot refer to group defined in the same lookbehind subpattern"
  | .noSuchGroup number => "invalid group reference " ++ toString number
  | .badGroupNumber => "bad group number"
  | .badGroupName name => "bad character in group name " ++ quoted name
  | .unknownGroup name => "unknown group name " ++ quoted name
  | .redefinedGroup name number previous =>
    "redefinition of group name " ++ quoted name ++ " as group " ++ toString number ++
      "; was group " ++ toString previous
  | .unterminatedSet => "unterminated character set"
  | .badRange low high => "bad character range " ++ low ++ "-" ++ high
  | .leastAboveMost => "min repeat greater than max repeat"
  | .nothingToRepeat => "nothing to repeat"
  | .multipleRepeat => "multiple repeat"
  | .unexpectedEnd => "unexpected end of pattern"
  | .unknownExtension spelling => "unknown extension " ++ spelling
  | .unterminatedComment => "missing ), unterminated comment"
  | .unterminatedGroup => "missing ), unterminated subpattern"
  | .tooManyBranches => "conditional backref with more than two branches"
  | .misplacedFlags => "global flags not at the start of the expression"
  | .unknownFlag => "unknown flag"
  | .localeFlag => "bad inline flags: cannot use 'L' flag with a str pattern"
  | .mixedTypeFlags => "bad inline flags: flags 'a', 'u' and 'L' are incompatible"
  | .turnedOnGlobal => "bad inline flags: cannot turn on global flag"
  | .turnedOffGlobal => "bad inline flags: cannot turn off global flag"
  | .turnedOffType => "bad inline flags: cannot turn off flags 'a', 'u' and 'L'"
  | .turnedOnAndOff => "bad inline flags: flag turned on and off"
  | .unbalanced => "unbalanced parenthesis"
  | .lookbehindTooLong => "looks too much behind"
  | .lookbehindNotFixed => "look-behind requires fixed-width pattern"
  | .templateRepeat greed => "internal: unsupported template operator " ++ greed

-- What keeps a text from being used as a pattern. Besides faults of the text
-- these are limits of the reader and two flags that exclude each other.
inductive Fault
  | malformed (cause : Cause) (position : Option Nat)
  | countTooLarge
  | asciiAndUnicode
  | tooDeep
  deriving DecidableEq, Repr

-- Line and column of a position, both from one.
def lineAndColumn (text : List Char) (position : Nat) : Nat × Nat :=
  let before := text.take position
  ((before.filter (· == '\n')).length + 1,
    (before.reverse.takeWhile (· != '\n')).length + 1)

-- The place of a fault. Lines are named only where the pattern has several.
def positionText (text : String) (position : Nat) : String :=
  let (line, column) := lineAndColumn text.toList position
  " at position " ++ toString position ++
    (if text.toList.contains '\n' then
      " (line " ++ toString line ++ ", column " ++ toString column ++ ")"
    else "")

def Fault.message (text : String) : Fault → String
  | .malformed cause none => cause.message
  | .malformed cause (some position) => cause.message ++ positionText text position
  | .countTooLarge => "the repetition number is too large"
  | .asciiAndUnicode => "ASCII and UNICODE flags are incompatible"
  | .tooDeep => "maximum recursion depth exceeded"

end TableSchema.Pattern
