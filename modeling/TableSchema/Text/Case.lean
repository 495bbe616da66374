import TableSchema.Text.Case.Table

namespace TableSchema.Text

-- The first character of the lower case form of a code point.
def lowerCode (code : Nat) : Nat :=
  if code < 0x80 then (if 0x41 ≤ code ∧ code ≤ 0x5A then code + 0x20 else code)
  else Case.moved Case.lowerShifts code

-- The first character of the upper case form of a code point.
def upperCode (code : Nat) : Nat :=
  if code < 0x80 then (if 0x61 ≤ code ∧ code ≤ 0x7A then code - 0x20 else code)
  else Case.moved Case.upperShifts code

-- The code points whose lower case form begins with `code`.
def lowerSources (code : Nat) : List Nat :=
  let moved := Case.lowerShifts.entries.toList.filterMap fun (first, last, shift) =>
    let distance := code - shift.target
    if shift.target ≤ code ∧ first + distance ≤ last ∧ distance % shift.step = 0 then
      some (first + distance)
    else none
  if lowerCode code = code then code :: moved else moved

def asciiLowerCode (code : Nat) : Nat :=
  if 0x41 ≤ code ∧ code ≤ 0x5A then code + 0x20 else code

def asciiLower (c : Char) : Char :=
  Char.ofNat (asciiLowerCode c.toNat)

-- The upper case form of a character, which may be longer than one character.
def upperChar (c : Char) : List Char :=
  match Case.upperExpansions.find? c.toNat with
  | some (_, head, tail) => Char.ofNat head :: tail.map Char.ofNat
  | none => [Char.ofNat (upperCode c.toNat)]

def upperText (s : String) : String :=
  String.ofList (s.toList.flatMap upperChar)

-- The case folding of a character, which may be longer than one character.
def foldChar (c : Char) : List Char :=
  if c.toNat < 0x80 then [Char.ofNat (lowerCode c.toNat)]
  else match Case.foldExpansions.find? c.toNat with
    | some (_, head, tail) => Char.ofNat head :: tail.map Char.ofNat
    | none => [Char.ofNat (Case.moved Case.foldShifts c.toNat)]

def foldText (cs : List Char) : List Char :=
  cs.flatMap foldChar

theorem foldText_append (a b : List Char) : foldText (a ++ b) = foldText a ++ foldText b := by
  simp [foldText]

end TableSchema.Text
