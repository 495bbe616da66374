import TableSchema.Encoding.Decode

namespace TableSchema

open TableSchema.Text

-- What a name in a directory stands for. A locked directory can be listed, but no name
-- in it be looked up.
inductive Entry
  | directory
  | lockedDirectory
  | file (content : List UInt8)
  | device
  deriving DecidableEq, Repr

-- A tree of files. Each place is given by the names that lead to it from the
-- root, which is a directory itself and has no entry. Relative paths begin at
-- the working directory. The decoders are those for files in other codecs, by the
-- names that the codecs have for themselves.
structure FileTree where
  entries : List (List String × Entry)
  workingDirectory : List String
  decoders : String → Encoding.Decoder := fun _ => .undefined

namespace FileTree

def find? (tree : FileTree) (place : List String) : Option Entry :=
  if place.isEmpty then some .directory else tree.entries.lookup place

-- The names in a directory.
def names (tree : FileTree) (place : List String) : List String :=
  tree.entries.filterMap fun (other, _) => if other.dropLast = place then other.getLast? else none

-- What the listing of a directory holds. Nothing else can be listed.
def listing? (tree : FileTree) (place : List String) : Option (List String) :=
  match tree.find? place with
  | some .directory | some .lockedDirectory => some (tree.names place)
  | _ => none

-- Adds an entry, and the directories that lead to it where they are missing.
def insert (tree : FileTree) (place : List String) (entry : Entry) : FileTree :=
  let parents := (List.range place.length).map place.take
  let missing := parents.filter fun parent => (tree.find? parent).isNone
  let kept := tree.entries.filter fun (other, _) => other != place
  { tree with entries := kept ++ missing.map (·, .directory) ++ [(place, entry)] }

-- A tree with nothing but the root.
def bare : FileTree where
  entries := []
  workingDirectory := []

-- A tree with nothing in it but the working directory and the null device.
def initial : FileTree :=
  let empty := { bare with workingDirectory := ["tmp", "work"] }
  (empty.insert ["dev", "null"] .device).insert ["tmp", "work"] .directory

/-! Following names -/

-- Why a name is not looked up: the directory is locked, or the name or the whole
-- path has more bytes than a directory or a look-up can hold.
inductive Fault
  | denied
  | tooLong
  deriving DecidableEq, Repr

def maxNameBytes : Nat := 255

def maxPathBytes : Nat := 4095

-- Where names lead from a place. Two points stand for the directory above.
def follow (tree : FileTree) (place : List String) : List String → Except Fault (Option (List String))
  | [] => .ok (some place)
  | name :: rest =>
    if tree.find? place = some .lockedDirectory then .error .denied
    else if tree.find? place ≠ some .directory then .ok none
    else if name = ".." then tree.follow place.dropLast rest
    else if maxNameBytes < name.utf8ByteSize then .error .tooLong
    else if (tree.find? (place ++ [name])).isNone then .ok none
    else tree.follow (place ++ [name]) rest

end FileTree

end TableSchema
