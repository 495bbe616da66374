import TableSchema.Text.Quoted
import TableSchema.Text.Split
import TableSchema.FileTree

namespace TableSchema

open TableSchema.Text

-- Where a path begins. Exactly two slashes are a root of their own that leads
-- to the same directory.
inductive Anchor
  | relative
  | root
  | doubleRoot
  deriving DecidableEq, Repr

-- A path without empty names and without names of the directory itself.
structure Location where
  anchor : Anchor
  names : List String
  deriving DecidableEq, Repr

namespace Location

def anchorOf (cs : List Char) : Anchor :=
  match (cs.takeWhile (· == '/')).length with
  | 0 => .relative
  | 2 => .doubleRoot
  | _ => .root

def ofText (text : String) : Location where
  anchor := anchorOf text.toList
  names := ((splitAt '/' text.toList).filter fun part => !part.isEmpty && part != ['.']).map String.ofList

def Anchor.text : Anchor → String
  | .relative => ""
  | .root => "/"
  | .doubleRoot => "//"

def render (location : Location) : String :=
  let text := Anchor.text location.anchor ++ String.intercalate "/" location.names
  if text.isEmpty then "." else text

-- The place from which the names are followed.
def start (tree : FileTree) (location : Location) : List String :=
  match location.anchor with
  | .relative => tree.workingDirectory
  | _ => []

-- The place a path leads to, if it exists.
def place? (tree : FileTree) (location : Location) :
    Except FileTree.Fault (Option (List String)) :=
  if location.names.any fun name => name.toList.contains '\x00' then .ok none
  else if FileTree.maxPathBytes < location.render.utf8ByteSize then .error .tooLong
  else tree.follow (location.start tree) location.names

def find? (tree : FileTree) (location : Location) : Except FileTree.Fault (Option Entry) :=
  return (← location.place? tree).bind tree.find?

def exists? (tree : FileTree) (location : Location) : Except FileTree.Fault Bool :=
  return (← location.find? tree).isSome

-- Whether the path leads to a file with content.
def isFile? (tree : FileTree) (location : Location) : Except FileTree.Fault Bool :=
  return match ← location.find? tree with
    | some (.file _) => true
    | _ => false

/-! Paths as they are written -/

-- A path that ends in a slash or in a name of the directory itself leads only
-- to a directory.
def endsInDirectory (text : String) : Bool :=
  match (splitAt '/' text.toList).getLast? with
  | some last => last.isEmpty || last == ['.']
  | none => false

-- The content of the file that a path leads to as it is written.
def content? (tree : FileTree) (text : String) : Option (List UInt8) :=
  if endsInDirectory text then none
  else
    match (ofText text).find? tree with
    | .ok (some (.file content)) => some content
    | _ => none

/-! Names as they are listed -/

-- Whether each name stands in the listing of the directory before it.
def isListed (tree : FileTree) (place : List String) : List String → Bool
  | [] => true
  | name :: rest =>
    if name = ".." then isListed tree place.dropLast rest
    else match tree.listing? place with
      | none => false
      | some names => names.contains name && isListed tree (place ++ [name]) rest

def matchesCase (tree : FileTree) (location : Location) : Bool :=
  isListed tree (location.start tree) location.names

/-! Reading a file -/

-- Why a file cannot be read.
inductive ReadFault
  | missing (path : String)
  | isDirectory (path : String)
  | notDirectory (path : String)
  | denied (path : String)
  | tooLong (path : String)
  | nullCharacter
  deriving DecidableEq, Repr

def ReadFault.message : ReadFault → String
  | .missing path => "[Errno 2] No such file or directory: " ++ quoted path
  | .isDirectory path => "[Errno 21] Is a directory: " ++ quoted path
  | .notDirectory path => "[Errno 20] Not a directory: " ++ quoted path
  | .denied path => "[Errno 13] Permission denied: " ++ quoted path
  | .tooLong path => "[Errno 36] File name too long: " ++ quoted path
  | .nullCharacter => "embedded null byte"

-- Whether the names lead through something that is no directory.
def crossesFile (tree : FileTree) (place : List String) : List String → Bool
  | [] => false
  | name :: rest =>
    match tree.find? place with
    | none => false
    | some .directory =>
      crossesFile tree (if name = ".." then place.dropLast else place ++ [name]) rest
    | some _ => true

def read (tree : FileTree) (location : Location) : Except ReadFault (List UInt8) :=
  let path := location.render
  if path.toList.contains '\x00' then .error .nullCharacter
  else match location.find? tree with
    | .error .denied => .error (.denied path)
    | .error .tooLong => .error (.tooLong path)
    | .ok (some (.file content)) => .ok content
    | .ok (some .device) => .ok []
    | .ok (some .directory) | .ok (some .lockedDirectory) => .error (.isDirectory path)
    | .ok none =>
      if crossesFile tree (location.start tree) location.names then .error (.notDirectory path)
      else .error (.missing path)

end Location

end TableSchema
