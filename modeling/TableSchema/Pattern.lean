import TableSchema.Pattern.Reader
import TableSchema.Pattern.Matching

namespace TableSchema

-- A pattern that has been read, with the text it was read from.
structure Pattern where
  text : String
  node : Pattern.Node
  flags : List Pattern.Flag

namespace Pattern

-- Reads a whole text as a pattern.
def ofText (text : String) : Except Fault Pattern := do
  let source ← Source.ofText text.toList
  let start : Reader :=
    { source, flags := [], groups := [], names := [], behind := none, conditions := [] }
  let (node, state) ← Read.pattern.run start
  return { text, node, flags := state.flags }

def mode (pattern : Pattern) (ignoreCase : Bool) : Mode where
  ignoreCase := ignoreCase || pattern.flags.contains .ignoreCase
  multiline := pattern.flags.contains .multiline
  dotAll := pattern.flags.contains .dotAll
  ascii := pattern.flags.contains .ascii

-- Whether the pattern matches a text from its start to its end.
def accepts (pattern : Pattern) (ignoreCase : Bool) (cs : List Char) : Bool :=
  let text := cs.toArray
  let start : Place := { position := 0, entered := [], left := [] }
  (pattern.node.run text (pattern.mode ignoreCase) start fun place =>
    if place.position = text.size then some place else none).isSome

end Pattern

end TableSchema
