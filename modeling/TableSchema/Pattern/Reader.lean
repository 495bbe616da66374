import TableSchema.Text.CharacterName
import TableSchema.Number.Integer
import TableSchema.Pattern.Node
import TableSchema.Pattern.Source

namespace TableSchema.Pattern

open TableSchema.Text

-- What the reader knows so far. A group has a width once it is closed.
-- `behind` is the number of groups in front of the outermost open lookbehind,
-- `conditions` where group numbers were first used as conditions.
structure Reader where
  source : Source
  flags : List Flag
  groups : List (Option (Nat × Nat))
  names : List (String × Nat)
  behind : Option Nat
  conditions : List (Nat × Nat)

abbrev Read := StateT Reader (Except Fault)

namespace Read

/-! Signs -/

def failAt {α : Type} (cause : Cause) (position : Nat) : Read α :=
  throw (.malformed cause (some position))

-- A fault that began `back` characters before the next sign.
def fail {α : Type} (cause : Cause) (back : Nat) : Read α := do
  failAt cause ((← get).source.position - back)

def position : Read Nat :=
  return (← get).source.position

def peek : Read (Option Sign) :=
  return (← get).source.next

def advance : Read Unit := do
  let state ← get
  let source ← state.source.advance
  set { state with source }

def take : Read (Option Sign) := do
  let sign ← peek
  advance
  return sign

-- Takes the next sign if it is the character.
def accept (c : Char) : Read Bool := do
  if (← peek) == some (.plain c) then
    advance
    return true
  else return false

-- At most `count` signs of the class, as characters.
def takeWhile (p : Char → Bool) : Nat → Read (List Char)
  | 0 => return []
  | count + 1 => do
    match ← peek with
    | some (.plain c) =>
      if p c then
        advance
        let cs ← takeWhile p count
        return c :: cs
      else return []
    | _ => return []

def remaining : Read Nat :=
  return (← get).source.size

-- Everything up to the terminator, which is taken too.
def takeUntil (terminator : Char) (what : String) : Read String := do
  let rec go (taken : String) : Nat → Read String
    | 0 => throw .tooDeep
    | fuel + 1 => do
      match ← take with
      | none =>
        if taken.isEmpty then fail (.missing what) 0
        else fail (.unterminatedName terminator) taken.length
      | some sign =>
        if sign == .plain terminator then
          if taken.isEmpty then fail (.missing what) 1 else return taken
        else go (taken ++ sign.text) fuel
  go "" ((← remaining) + 1)

/-! Escapes -/

def isOctalDigit (c : Char) : Bool :=
  '0' ≤ c && c ≤ '7'

def maxCode : Nat := 0x10FFFF

-- An escape of exactly so many hexadecimal digits.
def hexEscape (letter : Char) (count : Nat) : Read Nat := do
  let digits ← takeWhile isHexDigit count
  let escape := String.ofList ('\\' :: letter :: digits)
  if digits.length ≠ count then fail (.incompleteEscape escape) escape.length
  else if maxCode < valueIn 16 digits then fail (.badEscape escape) escape.length
  else return valueIn 16 digits

def namedEscape : Read Nat := do
  if !(← accept '\x7b') then fail (.missing "\x7b") 0
  let name ← takeUntil '\x7d' "character name"
  match characterNamed? name with
  | some code => return code
  | none => fail (.unknownCharacter name) (name.length + 4)

-- Up to three octal digits, of which the first is taken already.
def octalEscape (first : Char) : Read Nat := do
  let digits := first :: (← takeWhile isOctalDigit 2)
  let escape := String.ofList ('\\' :: digits)
  if 0o377 < valueIn 8 digits then fail (.octalTooLarge escape) escape.length
  else return valueIn 8 digits

-- The control characters that a letter stands for.
def controlEscape? : Char → Option Nat
  | 'a' => some 0x07
  | 'f' => some 0x0C
  | 'n' => some 0x0A
  | 'r' => some 0x0D
  | 't' => some 0x09
  | 'v' => some 0x0B
  | '\\' => some 0x5C
  | _ => none

-- A category and whether its letter means the opposite.
def categoryEscape? : Char → Option Member
  | 'd' => some (.category .digit false)
  | 'D' => some (.category .digit true)
  | 's' => some (.category .space false)
  | 'S' => some (.category .space true)
  | 'w' => some (.category .word false)
  | 'W' => some (.category .word true)
  | _ => none

def anchorEscape? : Char → Option Anchor
  | 'A' => some .textStart
  | 'Z' => some .textEnd
  | 'b' => some .boundary
  | 'B' => some .notBoundary
  | _ => none

-- Escapes that mean the same everywhere. A letter without a meaning is a fault.
def commonEscape (c : Char) : Read Nat := do
  match c with
  | 'x' => hexEscape 'x' 2
  | 'u' => hexEscape 'u' 4
  | 'U' => hexEscape 'U' 8
  | 'N' => namedEscape
  | _ =>
    if isAsciiLetter c || isAsciiDigit c then
      fail (.badEscape (String.ofList ['\\', c])) 2
    else return c.toNat

def memberEscape (c : Char) : Read Member := do
  match categoryEscape? c with
  | some member => return member
  | none =>
    if c == 'b' then return .one 0x08
    match controlEscape? c with
    | some code => return .one code
    | none =>
      if isOctalDigit c then return .one (← octalEscape c)
      else return .one (← commonEscape c)

def literal (code : Nat) : Node :=
  .char (.one code)

-- The width of a group that is closed.
def closedWidth? (state : Reader) (number : Nat) : Option (Nat × Nat) :=
  if number = 0 then none else (state.groups[number - 1]?).join

def groupCount (state : Reader) : Nat :=
  state.groups.length + 1

-- A lookbehind may refer only to groups closed in front of it.
def checkLookbehind (number : Nat) : Read Unit := do
  let state ← get
  match state.behind with
  | none => return ()
  | some count =>
    if (closedWidth? state number).isNone then fail .openGroup 0
    if count ≤ number then fail .groupOfLookbehind 0

-- A reference to the group, spelled with so many characters.
def backref (number spelled : Nat) : Read Node := do
  if (closedWidth? (← get) number).isNone then fail .openGroup spelled
  checkLookbehind number
  return .backref number

-- A reference by number, unless its digits are three octal ones.
def numberedEscape (first : Char) : Read Node := do
  let second ← takeWhile isAsciiDigit 1
  let third ←
    if isOctalDigit first && !second.isEmpty && second.all isOctalDigit then takeWhile isOctalDigit 1
    else pure []
  let digits := first :: second ++ third
  let escape := String.ofList ('\\' :: digits)
  if !third.isEmpty then
    if 0o377 < valueIn 8 digits then fail (.octalTooLarge escape) escape.length
    else return literal (valueIn 8 digits)
  else
    let number := valueIn 10 digits
    if number < groupCount (← get) then backref number escape.length
    else fail (.noSuchGroup number) (escape.length - 1)

def escape (c : Char) : Read Node := do
  match anchorEscape? c, categoryEscape? c, controlEscape? c with
  | some anchor, _, _ => return .anchor anchor
  | none, some member, _ => return .char (.set false [member])
  | none, none, some code => return literal code
  | none, none, none =>
    if c == '0' then return literal (← octalEscape '0')
    else if isAsciiDigit c then numberedEscape c
    else return literal (← commonEscape c)

/-! Classes in brackets -/

def member : Sign → Read Member
  | .plain c => return .one c.toNat
  | .escaped c => memberEscape c

-- The range between two members, which have to be characters in order.
def rangeOf (low high : Sign) : Member → Member → Read Member
  | .one first, .one last =>
    if last < first then fail (.badRange low.text high.text) (low.length + 1 + high.length)
    else return .range first last
  | _, _ => fail (.badRange low.text high.text) (low.length + 1 + high.length)

-- The members up to the closing bracket, the last one first. A bracket or a
-- hyphen that cannot have its meaning is a member.
def members (start : Nat) (found : List Member) : Nat → Read (List Member)
  | 0 => throw .tooDeep
  | fuel + 1 => do
    match ← take with
    | none => failAt .unterminatedSet start
    | some sign =>
      if sign == .plain ']' && !found.isEmpty then return found
      else
        let first ← member sign
        if ← accept '-' then
          match ← take with
          | none => failAt .unterminatedSet start
          | some last =>
            if last == .plain ']' then return .one 0x2D :: first :: found
            else
              let range ← rangeOf sign last first (← member last)
              members start (range :: found) fuel
        else members start (first :: found) fuel

-- A class with one character is that character.
def charClass (negated : Bool) (found : List Member) : CharClass :=
  match found.eraseDups with
  | [.one code] => if negated then .notOne code else .one code
  | distinct => .set negated distinct

def bracketed (start : Nat) : Read Node := do
  let negated ← accept '^'
  let found ← members start [] ((← remaining) + 1)
  return .char (charClass negated found.reverse)

/-! Repetition -/

-- Counts above this one are refused.
def countLimit : Nat := 4294967295

def bound? (digits : List Char) : Read (Option Nat) := do
  if digits.isEmpty then return none
  if countLimit ≤ valueIn 10 digits then throw .countTooLarge
  return some (valueIn 10 digits)

-- The counts in braces behind position `here`. Nothing, and nothing taken, if
-- the braces do not hold counts.
def braces? (here : Nat) : Read (Option (Nat × Option Nat)) := do
  if (← peek) == some (.plain '\x7d') then return none
  let start ← get
  let size ← remaining
  let least ← takeWhile isAsciiDigit size
  let most ← if ← accept ',' then takeWhile isAsciiDigit size else pure least
  if !(← accept '\x7d') then
    set start
    return none
  let low ← bound? least
  let high ← bound? most
  match high with
  | some count => if count < low.getD 0 then failAt .leastAboveMost here
  | none => pure ()
  return some (low.getD 0, high)

-- The counts that a sign asks for.
def counts? (c : Char) : Read (Option (Nat × Option Nat)) := do
  match c with
  | '?' => return some (0, some 1)
  | '*' => return some (0, none)
  | '+' => return some (1, none)
  | _ => braces? (← position)

-- Repeats the last of the items.
def repeated (start least : Nat) (most : Option Nat) (items : List Node) : Read (List Node) := do
  match items with
  | [] | .anchor _ :: _ => failAt .nothingToRepeat start
  | .loop .. :: _ => failAt .multipleRepeat start
  | item :: before =>
    let body := Node.ofList item.unpack
    if ← accept '?' then return .loop least most .lazy body :: before
    else if ← accept '+' then return .loop least most .possessive body :: before
    else return .loop least most .greedy body :: before

/-! Flags -/

def flagOf? : Char → Option Flag
  | 'i' => some .ignoreCase
  | 'L' => some .locale
  | 'm' => some .multiline
  | 's' => some .dotAll
  | 'x' => some .verbose
  | 'a' => some .ascii
  | 't' => some .template
  | 'u' => some .unicode
  | _ => none

def Flag.isType (flag : Flag) : Bool :=
  flag == .ascii || flag == .locale || flag == .unicode

def flagOfSign? : Sign → Option Flag
  | .plain c => flagOf? c
  | .escaped _ => none

-- A sign that is no flag where one must stand.
def noFlag {α : Type} (sign : Sign) (what : String) : Read α :=
  fail (if sign.isPlain isLetter then .unknownFlag else .missing what) sign.length

-- The flags turned on, beginning with `sign`, and the sign that ends them.
def flagsOn (sign : Sign) (found : List Flag) : Nat → Read (List Flag × Sign)
  | 0 => throw .tooDeep
  | fuel + 1 => do
    match flagOfSign? sign with
    | none =>
      if sign == .plain ')' || sign == .plain '-' || sign == .plain ':' then return (found, sign)
      else noFlag sign "-, : or )"
    | some flag =>
      if flag == .locale then fail .localeFlag 0
      if Flag.isType flag && found.any fun other => Flag.isType other && other != flag then
        fail .mixedTypeFlags 0
      match ← take with
      | none => fail (.missing "-, : or )") 0
      | some following => flagsOn following (if found.contains flag then found else flag :: found) fuel

-- The flags turned off, beginning with `sign`.
def flagsOff (sign : Sign) (found : List Flag) : Nat → Read (List Flag)
  | 0 => throw .tooDeep
  | fuel + 1 => do
    match flagOfSign? sign with
    | none =>
      if sign == .plain ':' && !found.isEmpty then return found
      else noFlag sign (if found.isEmpty then "flag" else ":")
    | some flag =>
      if Flag.isType flag then fail .turnedOffType 0
      match ← take with
      | none => fail (.missing ":") 0
      | some following => flagsOff following (flag :: found) fuel

-- The flags of a group: turned on, turned off, and whether they are meant for
-- the whole pattern.
def groupFlags (sign : Sign) : Read (List Flag × List Flag × Bool) := do
  let (on, ending) ←
    if sign == .plain '-' then pure ([], sign) else flagsOn sign [] ((← remaining) + 2)
  if ending == .plain ')' then return (on, [], true)
  if on.contains .template then fail .turnedOnGlobal 1
  if ending == .plain '-' then
    match ← take with
    | none => fail (.missing "flag") 0
    | some first =>
      let off ← flagsOff first [] ((← remaining) + 2)
      if off.contains .template then fail .turnedOffGlobal 1
      if on.any off.contains then fail .turnedOnAndOff 1
      return (on, off, false)
  else return (on, [], false)

/-! Groups -/

-- Groups may be nested as deep as this.
def maxNesting : Nat := 487

def groupLimit : Nat := 1073741823

def isIdentifier (name : String) : Bool :=
  isName name.toList

def checkGroupName (name : String) : Read Unit := do
  if !isIdentifier name then fail (.badGroupName name) (name.length + 1)

def numberOf (name : String) : Read Nat := do
  match (← get).names.lookup name with
  | some number => return number
  | none => fail (.unknownGroup name) (name.length + 1)

-- The group that a condition names, by name or by number.
def conditionGroup (name : String) : Read Nat := do
  if isIdentifier name then numberOf name
  else
    match Number.integerOfText? name.toList with
    | some (.ofNat number) =>
      if number = 0 then fail .badGroupNumber (name.length + 1)
      if groupLimit ≤ number then fail (.noSuchGroup number) (name.length + 1)
      let state ← get
      if (state.conditions.lookup number).isNone then
        let place := state.source.position - name.length - 1
        set { state with conditions := state.conditions ++ [(number, place)] }
      return number
    | _ => fail (.badGroupName name) (name.length + 1)

def openGroup (name : Option String) : Read Nat := do
  let state ← get
  let number := groupCount state
  match name with
  | none =>
    set { state with groups := state.groups ++ [none] }
    return number
  | some name =>
    match state.names.lookup name with
    | some previous => fail (.redefinedGroup name number previous) (name.length + 1)
    | none =>
      set { state with groups := state.groups ++ [none], names := (name, number) :: state.names }
      return number

def widthOf (state : Reader) (node : Node) : Nat × Nat :=
  node.width fun number => (closedWidth? state number).getD (0, 0)

def closeGroup (number : Nat) (body : Node) : Read Unit := do
  let state ← get
  set { state with groups := state.groups.set (number - 1) (some (widthOf state body)) }

-- Takes what remains of a comment in a group.
def groupComment (start : Nat) : Nat → Read Unit
  | 0 => throw .tooDeep
  | fuel + 1 => do
    if (← peek).isNone then failAt .unterminatedComment start
    if (← take) != some (.plain ')') then groupComment start fuel

-- Takes a comment up to the end of its line.
def lineComment : Nat → Read Unit
  | 0 => throw .tooDeep
  | fuel + 1 => do
    match ← take with
    | none => return ()
    | some sign => if sign != .plain '\n' then lineComment fuel

/-! Sequences and alternatives -/

-- Whether two items are one and the same simple item.
def sameItem : Node → Node → Bool
  | .char a, .char b => a == b
  | .anchor a, .anchor b => a == b
  | .backref a, .backref b => a == b
  | _, _ => false

-- The item with which all branches begin.
def sharedHead? : List (List Node) → Option Node
  | [] => none
  | branch :: branches =>
    match branch with
    | [] => none
    | head :: _ =>
      if branches.all fun other => (other.head?.map (sameItem head)).getD false then some head
      else none

-- Moves what all branches begin with in front of them, but no more than `count`
-- items.
def factor : Nat → List (List Node) → List Node × List (List Node)
  | 0, branches => ([], branches)
  | count + 1, branches =>
    match sharedHead? branches with
    | none => ([], branches)
    | some head =>
      let (shared, rest) := factor count (branches.map List.tail)
      (head :: shared, rest)

-- The members of a branch that is a single character or class.
def branchMembers? : List Node → Option (List Member)
  | [.char (.one code)] => some [.one code]
  | [.char (.set false members)] => some members
  | _ => none

def alternation : List (List Node) → Node
  | [] => .empty
  | [branch] => .ofList branch
  | branch :: branches => .alt (.ofList branch) (alternation branches)

-- Branches in one node. Branches that are classes make one class.
def joinBranches (branches : List (List Node)) : List Node :=
  match branches with
  | [branch] => branch
  | _ =>
    let (shared, rest) := factor (branches.headD []).length branches
    match rest.mapM branchMembers? with
    | some found => shared ++ [.char (.set false found.flatten.eraseDups)]
    | none => shared ++ [alternation rest]

-- Where a sequence stands: whether blanks count, whether it is the first branch
-- of all, and how many groups are open around it.
structure Setting where
  verbose : Bool
  first : Bool
  depth : Nat

-- What stands in parentheses: an item, nothing, or flags for the whole pattern.
inductive Parenthesis
  | item (node : Node)
  | comment
  | globalFlags

def isVerbose : Read Bool :=
  return (← get).flags.contains .verbose

def expectClose (start : Nat) : Read Unit := do
  if !(← accept ')') then failAt .unterminatedGroup start

def isPatternBlank (c : Char) : Bool :=
  isAsciiBlank c

mutual

-- Branches up to the end of the group or of the pattern.
def alternatives (setting : Setting) (top : Bool) (before : List (List Node)) : Nat → Read (List Node)
  | 0 => throw .tooDeep
  | fuel + 1 => do
    let branch ← sequence { setting with first := top && before.isEmpty } [] fuel
    let branches := before ++ [branch]
    if ← accept '|' then
      let verbose ← if top then isVerbose else pure setting.verbose
      alternatives { setting with verbose } top branches fuel
    else return joinBranches branches
termination_by structural fuel => fuel

-- The items of one branch. `items` holds those read so far, the last one first.
def sequence (setting : Setting) (items : List Node) : Nat → Read (List Node)
  | 0 => throw .tooDeep
  | fuel + 1 => do
    match ← peek with
    | none => return items.reverse.flatMap Node.unpack
    | some (.escaped c) =>
      advance
      let node ← escape c
      sequence setting (node :: items) fuel
    | some (.plain c) =>
      if c == '|' || c == ')' then return items.reverse.flatMap Node.unpack
      let start ← position
      advance
      if setting.verbose && isPatternBlank c then sequence setting items fuel
      else if setting.verbose && c == '#' then
        lineComment ((← remaining) + 2)
        sequence setting items fuel
      else if c == '[' then
        let node ← bracketed start
        sequence setting (node :: items) fuel
      else if c == '*' || c == '+' || c == '?' || c == '\x7b' then
        match ← counts? c with
        | none => sequence setting (literal c.toNat :: items) fuel
        | some (least, most) =>
          let items ← repeated start least most items
          sequence setting items fuel
      else if c == '.' then sequence setting (.char .any :: items) fuel
      else if c == '^' then sequence setting (.anchor .lineStart :: items) fuel
      else if c == '$' then sequence setting (.anchor .lineEnd :: items) fuel
      else if c == '(' then
        match ← parenthesis setting start fuel with
        | .item node => sequence setting (node :: items) fuel
        | .comment => sequence setting items fuel
        | .globalFlags =>
          if !setting.first || !items.isEmpty then failAt .misplacedFlags start
          sequence { setting with verbose := ← isVerbose } items fuel
      else sequence setting (literal c.toNat :: items) fuel
termination_by structural fuel => fuel

-- What an opening parenthesis at `start` opens.
def parenthesis (setting : Setting) (start : Nat) : Nat → Read Parenthesis
  | 0 => throw .tooDeep
  | fuel + 1 => do
    let setting := { setting with depth := setting.depth + 1, first := false }
    if maxNesting < setting.depth then throw .tooDeep
    if !(← accept '?') then capture setting start none fuel
    else
      match ← take with
      | none => fail .unexpectedEnd 0
      | some sign =>
        match sign with
        | .plain 'P' =>
          if ← accept '<' then
            let name ← takeUntil '>' "group name"
            checkGroupName name
            capture setting start (some name) fuel
          else if ← accept '=' then
            let name ← takeUntil ')' "group name"
            checkGroupName name
            let number ← numberOf name
            return .item (← backref number (name.length + 1))
          else
            match ← take with
            | none => fail .unexpectedEnd 0
            | some other => fail (.unknownExtension ("?P" ++ other.text)) (other.length + 2)
        | .plain ':' => flagGroup setting start [] [] fuel
        | .plain '#' =>
          groupComment start ((← remaining) + 2)
          return .comment
        | .plain '=' => lookahead setting start false fuel
        | .plain '!' => lookahead setting start true fuel
        | .plain '<' =>
          match ← take with
          | none => fail .unexpectedEnd 0
          | some (.plain '=') => lookbehind setting start false fuel
          | some (.plain '!') => lookbehind setting start true fuel
          | some other => fail (.unknownExtension ("?<" ++ other.text)) (other.length + 2)
        | .plain '(' => condition setting start fuel
        | .plain '>' =>
          let body ← alternatives setting false [] fuel
          expectClose start
          return .item (.atomic (.ofList body))
        | _ =>
          if (flagOfSign? sign).isSome || sign == .plain '-' then
            let (on, off, global) ← groupFlags sign
            if global then
              modify fun state => { state with flags := state.flags ++ on }
              return .globalFlags
            else flagGroup setting start on off fuel
          else fail (.unknownExtension ("?" ++ sign.text)) (sign.length + 1)
termination_by structural fuel => fuel

def capture (setting : Setting) (start : Nat) (name : Option String) : Nat → Read Parenthesis
  | 0 => throw .tooDeep
  | fuel + 1 => do
    let number ← openGroup name
    let body := Node.ofList (← alternatives setting false [] fuel)
    expectClose start
    closeGroup number body
    return .item (.group (some number) [] [] body)
termination_by structural fuel => fuel

-- A group that does not capture.
def flagGroup (setting : Setting) (start : Nat) (on off : List Flag) : Nat → Read Parenthesis
  | 0 => throw .tooDeep
  | fuel + 1 => do
    let verbose := (setting.verbose || on.contains .verbose) && !off.contains .verbose
    let body ← alternatives { setting with verbose } false [] fuel
    expectClose start
    return .item (.group none on off (.ofList body))
termination_by structural fuel => fuel

def lookahead (setting : Setting) (start : Nat) (negated : Bool) : Nat → Read Parenthesis
  | 0 => throw .tooDeep
  | fuel + 1 => do
    let body ← alternatives setting false [] fuel
    expectClose start
    return .item (.look none negated (.ofList body))
termination_by structural fuel => fuel

def lookbehind (setting : Setting) (start : Nat) (negated : Bool) : Nat → Read Parenthesis
  | 0 => throw .tooDeep
  | fuel + 1 => do
    let outer := (← get).behind
    modify fun state => { state with behind := outer.or (some (groupCount state)) }
    let body := Node.ofList (← alternatives setting false [] fuel)
    modify fun state => { state with behind := outer }
    expectClose start
    return .item (.look (some (widthOf (← get) body).1) negated body)
termination_by structural fuel => fuel

-- A choice that depends on whether a group has matched.
def condition (setting : Setting) (start : Nat) : Nat → Read Parenthesis
  | 0 => throw .tooDeep
  | fuel + 1 => do
    let name ← takeUntil ')' "group name"
    let number ← conditionGroup name
    checkLookbehind number
    let yes ← sequence setting [] fuel
    let no ←
      if ← accept '|' then
        let no ← sequence setting [] fuel
        if (← peek) == some (.plain '|') then fail .tooManyBranches 0
        pure no
      else pure []
    expectClose start
    return .item (.conditional number (.ofList yes) (.ofList no))
termination_by structural fuel => fuel

end

/-! The whole pattern -/

-- The faults that show only in the finished pattern: lookbehinds without a
-- fixed width, and repetitions under the template flag.
def check (state : Reader) : Node → Except Fault Unit
  | .empty | .char _ | .anchor _ | .backref _ => .ok ()
  | .seq first rest => do
    check state first
    check state rest
  | .alt left right => do
    check state left
    check state right
  | .group _ _ _ body => check state body
  | .atomic body => check state body
  | .look back _ body => do
    if back.isSome then
      let (least, most) := widthOf state body
      if countLimit < least then throw (.malformed .lookbehindTooLong none)
      if least ≠ most then throw (.malformed .lookbehindNotFixed none)
    check state body
  | .conditional _ yes no => do
    check state yes
    check state no
  | .loop _ _ greed body => do
    if state.flags.contains .template then
      throw (.malformed (.templateRepeat (match greed with
        | .greedy => "MAX_REPEAT"
        | .lazy => "MIN_REPEAT"
        | .possessive => "POSSESSIVE_REPEAT")) none)
    check state body

-- Reads a pattern up to its end. The number of signs bounds the calls.
def pattern : Read Node := do
  let fuel := 4 * (← remaining) + 8
  let body := Node.ofList (← alternatives { verbose := false, first := true, depth := 0 } true [] fuel)
  let state ← get
  if state.flags.contains .ascii && state.flags.contains .unicode then throw .asciiAndUnicode
  if (← peek).isSome then fail .unbalanced 0
  match state.conditions.find? fun (number, _) => groupCount state ≤ number with
  | some (number, place) => failAt (.noSuchGroup number) place
  | none => pure ()
  check state body
  return body

end Read

end TableSchema.Pattern
