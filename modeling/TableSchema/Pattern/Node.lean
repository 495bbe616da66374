import TableSchema.Pattern.CharClass

namespace TableSchema.Pattern

inductive Anchor
  | textStart
  | textEnd
  | lineStart
  | lineEnd
  | boundary
  | notBoundary
  deriving DecidableEq, Repr

inductive Flag
  | ignoreCase
  | locale
  | multiline
  | dotAll
  | verbose
  | ascii
  | unicode
  | template
  deriving DecidableEq, Repr

-- Which count a repetition tries first. A possessive one never gives back.
inductive Greed
  | greedy
  | lazy
  | possessive
  deriving DecidableEq, Repr

-- A pattern. A group captures if it has a number, and turns flags on and off
-- within its body. A look begins so many characters back, or looks ahead.
inductive Node
  | empty
  | char (charClass : CharClass)
  | anchor (kind : Anchor)
  | seq (first rest : Node)
  | alt (left right : Node)
  | group (number : Option Nat) (on off : List Flag) (body : Node)
  | atomic (body : Node)
  | look (back : Option Nat) (negated : Bool) (body : Node)
  | backref (number : Nat)
  | conditional (number : Nat) (yes no : Node)
  | loop (least : Nat) (most : Option Nat) (greed : Greed) (body : Node)
  deriving Repr

namespace Node

def ofList : List Node → Node
  | [] => .empty
  | [node] => node
  | node :: rest => .seq node (ofList rest)

-- The items of a sequence.
def toList : Node → List Node
  | .empty => []
  | .seq first rest => first :: rest.toList
  | node => [node]

-- A group that neither captures nor sets flags is no more than its items.
def unpack : Node → List Node
  | .group none [] [] body => body.toList
  | node => [node]

/-! Width -/

-- Wider than any text.
def maxWidth : Nat := 0x10000000000000000

-- The least and the greatest number of characters a node matches, up to a
-- limit. The widths of groups that are referred to are given.
def width (groups : Nat → Nat × Nat) : Node → Nat × Nat
  | .empty => (0, 0)
  | .char _ => (1, 1)
  | .anchor _ => (0, 0)
  | .seq first rest =>
    let (a, b) := first.width groups
    let (c, d) := rest.width groups
    (min (a + c) maxWidth, min (b + d) maxWidth)
  | .alt left right =>
    let (a, b) := left.width groups
    let (c, d) := right.width groups
    (min a c, max b d)
  | .group _ _ _ body => body.width groups
  | .atomic body => body.width groups
  | .look .. => (0, 0)
  | .backref number => groups number
  | .conditional _ yes no =>
    let (a, b) := yes.width groups
    let (c, d) := no.width groups
    (min a c, max b d)
  | .loop least most _ body =>
    let (a, b) := body.width groups
    let high := match most with
      | some count => b * count
      | none => if b = 0 then 0 else maxWidth
    (min (a * least) maxWidth, min high maxWidth)

end Node

end TableSchema.Pattern
