import TableSchema.Pattern.Node

namespace TableSchema.Pattern

open TableSchema.Text

-- Where a match stands: its position, and for each group by its number where it
-- was last entered and last left.
structure Place where
  position : Nat
  entered : List (Nat × Nat)
  left : List (Nat × Nat)

namespace Place

-- Sets the mark of a group.
def mark (number position : Nat) : List (Nat × Nat) → List (Nat × Nat)
  | [] => [(number, position)]
  | (other, old) :: rest =>
    if other = number then (number, position) :: rest
    else (other, old) :: mark number position rest

def enter (number : Nat) (place : Place) : Place :=
  { place with entered := mark number place.position place.entered }

def leave (number : Nat) (place : Place) : Place :=
  { place with left := mark number place.position place.left }

-- Start and end of what a group has matched.
def span? (number : Nat) (place : Place) : Option (Nat × Nat) :=
  match place.entered.lookup number, place.left.lookup number with
  | some start, some stop => if start ≤ stop then some (start, stop) else none
  | _, _ => none

def moveTo (position : Nat) (place : Place) : Place :=
  { place with position }

end Place

-- What is left to match after a node.
abbrev Rest := Place → Option Place

/-! Anchors -/

def isWordIn (mode : Mode) (c : Option Char) : Bool :=
  (c.map fun c => Category.word.contains mode c).getD false

-- Whether exactly one side of the position is part of a word.
def atBoundary (mode : Mode) (text : Array Char) (position : Nat) : Bool :=
  isWordIn mode (if position = 0 then none else text[position - 1]?) != isWordIn mode text[position]?

-- An empty text has neither boundaries nor places that are none.
def Anchor.holds (mode : Mode) (text : Array Char) (position : Nat) : Anchor → Bool
  | .textStart => position == 0
  | .textEnd => position == text.size
  | .lineStart => position == 0 || (mode.multiline && text[position - 1]? == some '\n')
  | .lineEnd =>
    position == text.size ||
      (text[position]? == some '\n' && (mode.multiline || position + 1 == text.size))
  | .boundary => !text.isEmpty && atBoundary mode text position
  | .notBoundary => !text.isEmpty && !atBoundary mode text position

-- The flags of a group replace those around it.
def Mode.scoped (mode : Mode) (on off : List Flag) : Mode where
  ignoreCase := (mode.ignoreCase || on.contains .ignoreCase) && !off.contains .ignoreCase
  multiline := (mode.multiline || on.contains .multiline) && !off.contains .multiline
  dotAll := (mode.dotAll || on.contains .dotAll) && !off.contains .dotAll
  ascii := (mode.ascii && !on.contains .unicode) || on.contains .ascii

/-! Repetition -/

-- How many characters from the position on belong to the class, up to a limit.
def countRun (test : Char → Bool) (text : Array Char) (position : Nat) : Nat → Nat → Nat
  | 0, count => count
  | limit + 1, count =>
    match text[position + count]? with
    | some c => if test c then countRun test text position limit (count + 1) else count
    | none => count

-- Goes on behind the most characters first, down to the least.
def givingBack (place : Place) (least : Nat) (k : Rest) : Nat → Option Place
  | 0 => if least = 0 then k place else none
  | count + 1 =>
    if count + 1 < least then none
    else match k (place.moveTo (place.position + count + 1)) with
      | some result => some result
      | none => givingBack place least k count

-- Goes on behind the least characters first. `more` counts those to add.
def takingMore (place : Place) (k : Rest) (count : Nat) : Nat → Option Place
  | 0 => k (place.moveTo (place.position + count))
  | more + 1 =>
    match k (place.moveTo (place.position + count)) with
    | some result => some result
    | none => takingMore place k (count + 1) more

-- A repetition of single characters.
def repeatClass (test : Char → Bool) (text : Array Char) (least : Nat) (most : Option Nat)
    (greed : Greed) (place : Place) (k : Rest) : Option Place :=
  let available := text.size - place.position
  let limit := match most with
    | some count => min count available
    | none => available
  let count := countRun test text place.position limit 0
  if count < least then none
  else match greed with
    | .greedy => givingBack place least k count
    | .lazy => takingMore place k least (count - least)
    | .possessive => k (place.moveTo (place.position + count))

def below (count : Nat) : Option Nat → Bool
  | some most => count < most
  | none => true

-- One more round before going on. After the least count a round that would
-- begin where the last one began is not tried.
def repeatGreedy (body : Place → Rest → Option Place) (least : Nat) (most : Option Nat) (k : Rest) :
    Nat → Nat → Option Nat → Place → Option Place
  | 0, _, _, place => k place
  | fuel + 1, count, last, place =>
    if count < least then
      body place fun next => repeatGreedy body least most k fuel (count + 1) last next
    else if below count most && last != some place.position then
      let round := body place fun next =>
        repeatGreedy body least most k fuel (count + 1) (some place.position) next
      match round with
      | some result => some result
      | none => k place
    else k place

-- Goes on before one more round.
def repeatLazy (body : Place → Rest → Option Place) (least : Nat) (most : Option Nat) (k : Rest) :
    Nat → Nat → Option Nat → Place → Option Place
  | 0, _, _, _ => none
  | fuel + 1, count, last, place =>
    if count < least then
      body place fun next => repeatLazy body least most k fuel (count + 1) last next
    else match k place with
      | some result => some result
      | none =>
        if below count most && last != some place.position then
          body place fun next =>
            repeatLazy body least most k fuel (count + 1) (some place.position) next
        else none

-- As many rounds as there are, each with its first match only.
def repeatPossessive (body : Place → Rest → Option Place) (least : Nat) (most : Option Nat) :
    Nat → Nat → Option Nat → Place → Option Place
  | 0, _, _, place => some place
  | fuel + 1, count, last, place =>
    if count < least then
      match body place some with
      | some next => repeatPossessive body least most fuel (count + 1) last next
      | none => none
    else if below count most && last != some place.position then
      match body place some with
      | some next => repeatPossessive body least most fuel (count + 1) (some place.position) next
      | none => some place
    else some place

-- A repetition of any body. Each round behind the least count moves on, except
-- the last one, so the text bounds their number.
def repeatBody (body : Place → Rest → Option Place) (text : Array Char) (least : Nat)
    (most : Option Nat) (greed : Greed) (place : Place) (k : Rest) : Option Place :=
  let fuel := least + (text.size - place.position) + 2
  match greed with
  | .greedy => repeatGreedy body least most k fuel 0 none place
  | .lazy => repeatLazy body least most k fuel 0 none place
  | .possessive =>
    match repeatPossessive body least most fuel 0 none place with
    | some next => k next
    | none => none

/-! Nodes -/

-- Whether the texts of two spans are the same, letter case apart if it is ignored.
def sameSpan (mode : Mode) (text : Array Char) (a b : Nat) : Nat → Bool
  | 0 => true
  | count + 1 =>
    match text[a]?, text[b]? with
    | some c, some d =>
      (if mode.ignoreCase then mode.lower c.toNat == mode.lower d.toNat else c == d) &&
        sameSpan mode text (a + 1) (b + 1) count
    | _, _ => false

-- The first way to match the node at the place and then all that is left.
def Node.run (text : Array Char) : Node → Mode → Place → Rest → Option Place
  | .empty, _, place, k => k place
  | .char charClass, mode, place, k =>
    match text[place.position]? with
    | some c => if charClass.contains mode c then k (place.moveTo (place.position + 1)) else none
    | none => none
  | .anchor kind, mode, place, k =>
    if kind.holds mode text place.position then k place else none
  | .seq first rest, mode, place, k =>
    first.run text mode place fun next => rest.run text mode next k
  | .alt left right, mode, place, k =>
    match left.run text mode place k with
    | some result => some result
    | none => right.run text mode place k
  | .group number on off body, mode, place, k =>
    match number with
    | some number =>
      body.run text (mode.scoped on off) (place.enter number) fun next => k (next.leave number)
    | none => body.run text (mode.scoped on off) place k
  | .atomic body, mode, place, k =>
    match body.run text mode place some with
    | some next => k next
    | none => none
  | .look back negated body, mode, place, k =>
    let width := back.getD 0
    let found :=
      if place.position < width then none
      else body.run text mode (place.moveTo (place.position - width)) some
    match found, negated with
    | some next, false => k (next.moveTo place.position)
    | none, true => k place
    | _, _ => none
  | .backref number, mode, place, k =>
    match place.span? number with
    | some (start, stop) =>
      if sameSpan mode text start place.position (stop - start) then
        k (place.moveTo (place.position + (stop - start)))
      else none
    | none => none
  | .conditional number yes no, mode, place, k =>
    if (place.span? number).isSome then yes.run text mode place k else no.run text mode place k
  | .loop least most greed body, mode, place, k =>
    match body with
    | .char charClass =>
      repeatClass (charClass.contains mode) text least most greed place k
    | _ => repeatBody (body.run text mode) text least most greed place k

end TableSchema.Pattern
