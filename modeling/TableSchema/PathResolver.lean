import TableSchema.Location
import TableSchema.Uri

namespace TableSchema

open TableSchema.Text

-- Replaces `source` in front of a path by `target`.
structure Substitution where
  source : String
  target : String
  deriving DecidableEq, Repr

-- An empty source is never replaced.
def Substitution.replace? (substitution : Substitution) (path : String) : Option String :=
  if substitution.source.isEmpty then none
  else (afterFront? substitution.source.toList path.toList).map fun rest =>
    substitution.target ++ String.ofList rest

-- How paths in cells lead to files. The first substitution that applies counts.
structure PathResolver where
  substitutions : List Substitution
  caseSensitive : Bool
  deriving DecidableEq, Repr

namespace PathResolver

def default : PathResolver where
  substitutions := []
  caseSensitive := false

inductive Fault
  | uri (fault : Uri.Fault)
  | denied
  | tooLong
  deriving DecidableEq, Repr

def substitute (resolver : PathResolver) (path : String) : String :=
  (resolver.substitutions.findSome? fun substitution => substitution.replace? path).getD path

def fileUriStart : List Char :=
  "file://".toList

-- Drops the slash in front of a drive letter.
def withoutDriveSlash : List Char → List Char
  | '/' :: drive :: ':' :: rest => drive :: ':' :: rest
  | path => path

-- A file URI becomes the path it names.
def resolve (resolver : PathResolver) (path : String) : Except Fault String := do
  let path := resolver.substitute path
  if fileUriStart.isPrefixOf path.toList then
    match Uri.ofText path.toList with
    | .ok uri => return String.ofList (withoutDriveSlash (Uri.unescape uri.path))
    | .error fault => throw (.uri fault)
  else return path

-- Whether the path leads to something, in the same letter case if asked for.
def pathExists (resolver : PathResolver) (tree : FileTree) (path : String) : Except Fault Bool := do
  let location := Location.ofText (← resolver.resolve path)
  match location.exists? tree with
  | .error .denied => throw .denied
  | .error .tooLong => throw .tooLong
  | .ok false => return false
  | .ok true => return !resolver.caseSensitive || location.matchesCase tree

end PathResolver

end TableSchema
