import TableSchema.Text.Digit
import TableSchema.Text.Split

namespace TableSchema.Uri

open TableSchema.Text

-- A decimal octet without leading zeros.
def isOctet (cs : List Char) : Bool :=
  !cs.isEmpty && cs.all isAsciiDigit && cs.length ≤ 3 && (cs == ['0'] || cs.head? != some '0') &&
    ofDigits (cs.map fun c => c.toNat - 0x30) ≤ 255

def isIpv4 (cs : List Char) : Bool :=
  let octets := splitAt '.' cs
  octets.length == 4 && octets.all isOctet

-- A group of up to four hexadecimal digits.
def isHextet (cs : List Char) : Bool :=
  !cs.isEmpty && cs.length ≤ 4 && cs.all isHexDigit

-- The positions of the empty parts, the first and the last part apart.
def gaps (parts : List (List Char)) : List Nat :=
  (List.range parts.length).filter fun i =>
    0 < i && i + 1 < parts.length && (parts[i]?.map List.isEmpty).getD false

-- Eight groups, or fewer with one gap. An outermost part may be empty only next
-- to the gap.
def areHextets (parts : List (List Char)) : Bool :=
  match gaps parts with
  | [] => parts.length == 8 && parts.all isHextet
  | [gap] =>
    let front := parts.take gap
    let back := parts.drop (gap + 1)
    let front := if front == [[]] then [] else front
    let back := if back == [[]] then [] else back
    front.length + back.length < 8 && front.all isHextet && back.all isHextet
  | _ => false

-- An address whose last two groups may be written as an address of version 4,
-- with a zone behind a percent sign if there is one.
def isIpv6 (cs : List Char) : Bool :=
  let (address, zoned) := (cs.takeWhile (· != '%'), cs.dropWhile (· != '%'))
  let zoneFits := match zoned with
    | [] => true
    | _ :: zone => !zone.isEmpty && !zone.contains '%'
  let parts := splitAt ':' address
  let last := parts.getLast?.getD []
  let parts? :=
    if last.contains '.' then
      if isIpv4 last then some (parts.dropLast ++ [['0'], ['0']]) else none
    else some parts
  zoneFits && 3 ≤ parts.length &&
    match parts? with
    | some parts => parts.length ≤ 9 && areHextets parts
    | none => false

-- An address of a future version: `v`, its number, a point and the rest.
def isFutureAddress (cs : List Char) : Bool :=
  match cs with
  | 'v' :: rest =>
    !(rest.takeWhile isHexDigit).isEmpty &&
      match rest.dropWhile isHexDigit with
      | '.' :: tail => !tail.isEmpty && !tail.contains '\n'
      | _ => false
  | _ => false

end TableSchema.Uri
