import TableSchema.Environment
import TableSchema.Text.Blank

namespace TableSchema.EnvFile

open TableSchema.Text

-- A name in a file of settings, and its value if it has one.
structure Binding where
  name : String
  value : Option String
  deriving DecidableEq, Repr

/-! Quoted values -/

-- The text in front of the closing quote, and what is behind it. A quote behind
-- a backslash closes the text only if no later quote does.
def closeFrom (quote : Char) (escaped : Bool) : List Char → Option (List Char × List Char)
  | [] => none
  | c :: rest =>
    if c = quote then
      if escaped then
        match closeFrom quote false rest with
        | some (text, behind) => some (quote :: text, behind)
        | none => some ([], rest)
      else some ([], rest)
    else (closeFrom quote (c == '\\') rest).map fun (text, behind) => (c :: text, behind)

def close? (quote : Char) (cs : List Char) : Option (List Char × List Char) :=
  closeFrom quote false cs

-- The characters that stand for others behind a backslash, in single and in
-- double quotes.
def singleEscapes : List (Char × Char) :=
  [('\\', '\\'), ('\'', '\'')]

def doubleEscapes : List (Char × Char) :=
  singleEscapes ++ [('"', '"'), ('a', '\x07'), ('b', '\x08'), ('f', '\x0c'), ('n', '\n'), ('r', '\r'),
    ('t', '\t'), ('v', '\x0b')]

-- Other backslashes stand for themselves.
def unescape (escapes : List (Char × Char)) : List Char → List Char
  | '\\' :: c :: rest =>
    match escapes.lookup c with
    | some meant => meant :: unescape escapes rest
    | none => '\\' :: unescape escapes (c :: rest)
  | c :: rest => c :: unescape escapes rest
  | [] => []

/-! Bindings -/

-- Space within a line.
def isGap (c : Char) : Bool :=
  isBlank c && c != '\n' && c != '\r'

def skipGap (cs : List Char) : List Char :=
  cs.dropWhile isGap

def isNameChar (c : Char) : Bool :=
  !isBlank c && c != '=' && c != '#'

-- A name may be declared as exported.
def skipExport (cs : List Char) : List Char :=
  match cs.splitAt 6 with
  | (word, c :: rest) => if word = "export".toList && isGap c then skipGap rest else cs
  | _ => cs

-- A reader of a part of a binding leaves what is behind it, or where it failed.
abbrev Part (α : Type) := Except (List Char) (α × List Char)

-- A comment takes the place of a name.
def nameOf (cs : List Char) : Part (Option String) :=
  match cs with
  | '#' :: _ => .ok (none, cs)
  | '\'' :: rest =>
    let name := rest.takeWhile (· != '\'')
    match rest.dropWhile (· != '\'') with
    | _ :: behind => if name.isEmpty then .error cs else .ok (some (String.ofList name), behind)
    | [] => .error cs
  | _ =>
    let name := cs.takeWhile isNameChar
    if name.isEmpty then .error cs else .ok (some (String.ofList name), cs.dropWhile isNameChar)

-- A value without quotes, up to the end of it or to a comment behind a space.
def plainFrom (blankBefore : Bool) : List Char → List Char
  | [] => []
  | c :: rest => if c = '#' && blankBefore then [] else c :: plainFrom (isBlank c) rest

def withoutBlankEnd (cs : List Char) : List Char :=
  (cs.reverse.dropWhile isBlank).reverse

def isLineEnd (c : Char) : Bool :=
  c == '\n' || c == '\r'

def quotedValue (quote : Char) (escapes : List (Char × Char)) (rest : List Char) : Part String :=
  match close? quote rest with
  | some (text, behind) => .ok (String.ofList (unescape escapes text), behind)
  | none => .error (quote :: rest)

def valueOf (cs : List Char) : Part String :=
  match cs with
  | '\'' :: rest => quotedValue '\'' singleEscapes rest
  | '"' :: rest => quotedValue '"' doubleEscapes rest
  | _ =>
    let line := cs.takeWhile fun c => !isLineEnd c
    .ok (String.ofList (withoutBlankEnd (plainFrom false line)), cs.dropWhile fun c => !isLineEnd c)

-- Without an equals sign a name has no value.
def assignedValue (cs : List Char) : Part (Option String) :=
  match cs with
  | '=' :: rest => (valueOf (skipGap rest)).map fun (value, behind) => (some value, behind)
  | _ => .ok (none, cs)

def skipComment (cs : List Char) : List Char :=
  match skipGap cs with
  | '#' :: rest => rest.dropWhile fun c => !isLineEnd c
  | rest => rest

-- Nothing but a comment may stand behind a binding.
def endOfLine (cs : List Char) : Except (List Char) (List Char) :=
  match skipComment cs with
  | [] => .ok []
  | c :: rest => if isLineEnd c then .ok rest else .error (c :: rest)

def bindingOf (cs : List Char) : Except (List Char) (Option Binding × List Char) := do
  let (name, rest) ← nameOf (skipExport cs)
  let (value, rest) ← assignedValue (skipGap rest)
  let rest ← endOfLine rest
  return (name.map fun name => { name, value }, rest)

def nextLine (cs : List Char) : List Char :=
  (cs.dropWhile fun c => !isLineEnd c).drop 1

-- Each binding takes at least one character.
def bindingsFrom : Nat → List Char → List Binding
  | 0, _ => []
  | fuel + 1, cs =>
    match cs.dropWhile isBlank with
    | [] => []
    | line =>
      match bindingOf line with
      | .ok (binding, rest) => binding.toList ++ bindingsFrom fuel rest
      | .error failed => bindingsFrom fuel (nextLine failed)

-- The bindings in a text. A line that is none is left out.
def bindings (cs : List Char) : List Binding :=
  bindingsFrom cs.length cs

/-! References to other variables -/

structure Reference where
  name : String
  fallback : String
  length : Nat
  deriving DecidableEq, Repr

def isReferenceNameChar (c : Char) : Bool :=
  c != '\x7d' && c != ':'

-- The reference with which a text begins: a name in braces behind a dollar sign,
-- and perhaps what to take in its place if it is not set.
def reference? : List Char → Option Reference
  | '$' :: '\x7b' :: rest =>
    let name := rest.takeWhile isReferenceNameChar
    match rest.dropWhile isReferenceNameChar with
    | '\x7d' :: _ =>
      some { name := String.ofList name, fallback := "", length := name.length + 3 }
    | ':' :: '-' :: behind =>
      let fallback := behind.takeWhile (· != '\x7d')
      if (behind.dropWhile (· != '\x7d')).isEmpty then none
      else
        some {
          name := String.ofList name, fallback := String.ofList fallback
          length := name.length + fallback.length + 5 }
    | _ => none
  | _ => none

-- `skip` counts the characters of a reference that are still to be passed over.
def expandFrom (meaning : Reference → String) (skip : Nat) : List Char → List Char
  | [] => []
  | c :: rest =>
    match skip with
    | skip + 1 => expandFrom meaning skip rest
    | 0 =>
      match reference? (c :: rest) with
      | some reference =>
        (meaning reference).toList ++ expandFrom meaning (reference.length - 1) rest
      | none => c :: expandFrom meaning 0 rest

-- The references in a text.
def referencesFrom (skip : Nat) : List Char → List Reference
  | [] => []
  | c :: rest =>
    match skip with
    | skip + 1 => referencesFrom skip rest
    | 0 =>
      match reference? (c :: rest) with
      | some reference => reference :: referencesFrom (reference.length - 1) rest
      | none => referencesFrom 0 rest

-- Names with their values so far, in the order of their first bindings.
abbrev Values := List (String × Option String)

def Values.put (name : String) (value : Option String) : Values → Values
  | [] => [(name, value)]
  | (other, old) :: rest =>
    if other = name then (name, value) :: rest else (other, old) :: Values.put name value rest

-- The environment wins over the file. A name without a value is empty.
def meaningOf (environment : Environment) (values : Values) (reference : Reference) : String :=
  match environment.get? reference.name with
  | some value => value
  | none =>
    match values.lookup reference.name with
    | some value => value.getD ""
    | none => reference.fallback

def expand (environment : Environment) (values : Values) (text : String) : String :=
  String.ofList (expandFrom (meaningOf environment values) 0 text.toList)

-- The last binding of a name counts.
def valuesOf (environment : Environment) (bindings : List Binding) : Values :=
  bindings.foldl (fun values binding =>
    values.put binding.name (binding.value.map (expand environment values))) []

/-! Adding a file to the environment -/

-- Why a variable cannot be set.
inductive Fault
  | illegalName
  | nullCharacter
  deriving DecidableEq, Repr

def Fault.message : Fault → String
  | .illegalName => "illegal environment variable name"
  | .nullCharacter => "embedded null byte"

def define (environment : Environment) (name value : String) : Except Fault Environment :=
  if name.toList.contains '\x00' || value.toList.contains '\x00' then .error .nullCharacter
  else if name.toList.contains '=' then .error .illegalName
  else .ok (environment.add name value)

-- Sets what has a value and is not set yet.
def defineAll (environment : Environment) : Values → Except Fault Environment
  | [] => .ok environment
  | (name, some value) :: rest => do
    let environment ← if environment.isSet name then .ok environment else define environment name value
    defineAll environment rest
  | (_, none) :: rest => defineAll environment rest

end TableSchema.EnvFile
