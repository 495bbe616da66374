import TableSchema.Text.Digit

namespace TableSchema.Schema

open TableSchema.Text

inductive TokenKind
  | text
  | directive
  | column
  | word
  | colon
  | opening
  | closing
  | comma
  | invalid
  | endOfLine
  deriving DecidableEq, Repr

-- A token with its place. The text of a quoted token is what the quotes
-- enclose, and names come without the sign in front of them.
structure Token where
  kind : TokenKind
  text : String
  line : Nat
  column : Nat
  deriving DecidableEq, Repr

/-! Character classes -/

def isDirectiveChar (c : Char) : Bool :=
  isAsciiLetter c || isAsciiDigit c || c == '_'

def isColumnChar (c : Char) : Bool :=
  isDirectiveChar c || c == '-' || c == '.'

def isWordChar (c : Char) : Bool :=
  isColumnChar c || c == '*'

def isSpace (c : Char) : Bool :=
  c == ' ' || c == '\t'

/-! Quoted texts -/

-- What stands before the closing quote, with its escapes. A backslash takes the
-- next character with it, which must not be a line feed.
def quotedBody? : List Char → Option (List Char)
  | [] => none
  | '"' :: _ => some []
  | '\\' :: [] => none
  | '\\' :: c :: rest => if c = '\n' then none else (quotedBody? rest).map fun body => '\\' :: c :: body
  | c :: rest => (quotedBody? rest).map fun body => c :: body

-- An escaped quote stands for the quote. Other escapes stand for themselves.
def unescape : List Char → List Char
  | [] => []
  | '\\' :: '"' :: rest => '"' :: unescape rest
  | c :: rest => c :: unescape rest

/-! Lexemes -/

-- The token at the front of a text: its kind, the number of characters it
-- takes, and its text.
structure Lexeme where
  kind : TokenKind
  length : Nat
  text : List Char
  deriving DecidableEq, Repr

def sign (kind : TokenKind) (c : Char) : Lexeme :=
  { kind, length := 1, text := [c] }

-- The lexeme that begins with `c`. Spaces and line feeds begin none, and a
-- character that can begin nothing else is invalid by itself.
def lexeme? (c : Char) (rest : List Char) : Option Lexeme :=
  if isSpace c || c == '\n' then none
  else if c == '"' then
    match quotedBody? rest with
    | some body => some { kind := .text, length := body.length + 2, text := unescape body }
    | none => some (sign .invalid c)
  else if c == '@' then
    if (rest.head?.map isAsciiLetter).getD false then
      let name := rest.takeWhile isDirectiveChar
      some { kind := .directive, length := name.length + 1, text := name }
    else some (sign .invalid c)
  else if c == '$' then
    let name := rest.takeWhile isColumnChar
    if name.isEmpty then some (sign .invalid c)
    else some { kind := .column, length := name.length + 1, text := name }
  else if isWordChar c then
    let word := c :: rest.takeWhile isWordChar
    some { kind := .word, length := word.length, text := word }
  else if c == ':' then some (sign .colon c)
  else if c == '(' then some (sign .opening c)
  else if c == ')' then some (sign .closing c)
  else if c == ',' then some (sign .comma c)
  else some (sign .invalid c)

-- The tokens from a column on. The next `skip` characters belong to the token
-- before.
def tokensFrom (line column skip : Nat) : List Char → List Token
  | [] => [{ kind := .endOfLine, text := "", line, column }]
  | c :: rest =>
    match skip with
    | skip + 1 => tokensFrom line (column + 1) skip rest
    | 0 =>
      match lexeme? c rest with
      | none => tokensFrom line (column + 1) 0 rest
      | some lexeme =>
        { kind := lexeme.kind, text := String.ofList lexeme.text, line, column } ::
          tokensFrom line (column + 1) (lexeme.length - 1) rest

-- The tokens of a line, and one that marks its end.
def tokenize (text : List Char) (line : Nat) : List Token :=
  tokensFrom line 1 0 text

end TableSchema.Schema
