import TableSchema.Text.Blank
import TableSchema.Text.Quoted
import TableSchema.Text.Utf8
import TableSchema.Uri.Address

namespace TableSchema

open TableSchema.Text

-- A URI in its parts. The path has lost a parameter behind its last segment if
-- the scheme has such parameters.
structure Uri where
  scheme : List Char
  authority : List Char
  path : List Char
  deriving DecidableEq, Repr

namespace Uri

-- Why a text is no URI. All causes lie in the authority.
inductive Fault
  | brackets
  | futureAddress
  | ipv4InBrackets
  | noAddress (host : String)
  | forbidden (authority : String)
  deriving DecidableEq, Repr

def Fault.message : Fault → String
  | .brackets => "Invalid IPv6 URL"
  | .futureAddress => "IPvFuture address is invalid"
  | .ipv4InBrackets => "An IPv4 address cannot be in brackets"
  | .noAddress host => quoted host ++ " does not appear to be an IPv4 or IPv6 address"
  | .forbidden authority =>
    "netloc '" ++ authority ++ "' contains invalid characters under NFKC normalization"

/-! Percent encoding -/

def hexValue? (byte : UInt8) : Option Nat :=
  if 0x30 ≤ byte ∧ byte ≤ 0x39 then some (byte.toNat - 0x30)
  else if 0x41 ≤ byte ∧ byte ≤ 0x46 then some (byte.toNat - 0x37)
  else if 0x61 ≤ byte ∧ byte ≤ 0x66 then some (byte.toNat - 0x57)
  else none

-- The byte that an escape behind a percent sign denotes, if two hexadecimal
-- digits follow.
def escaped? : List UInt8 → Option UInt8
  | high :: low :: _ => do
    let a ← hexValue? high
    let b ← hexValue? low
    return (16 * a + b).toUInt8
  | _ => none

-- `skip` bytes belong to an escape that has been decoded.
def decodeEscapesFrom (skip : Nat) : List UInt8 → List UInt8
  | [] => []
  | byte :: rest =>
    match skip with
    | skip + 1 => decodeEscapesFrom skip rest
    | 0 =>
      if byte = 0x25 then
        match escaped? rest with
        | some decoded => decoded :: decodeEscapesFrom 2 rest
        | none => byte :: decodeEscapesFrom 0 rest
      else byte :: decodeEscapesFrom 0 rest

def decodeEscapes (bytes : List UInt8) : List UInt8 :=
  decodeEscapesFrom 0 bytes

-- The text with its escapes decoded. Escapes that do not make up characters are
-- replaced.
def unescape (cs : List Char) : List Char :=
  Utf8.decodeLossy (decodeEscapes (Utf8.encode cs))

/-! Splitting -/

-- Controls and blanks that may stand in front of a URI.
def isLeading (c : Char) : Bool :=
  c ≤ ' '

-- Characters that are dropped wherever they stand.
def isDropped (c : Char) : Bool :=
  c == '\t' || c == '\r' || c == '\n'

def isSchemeChar (c : Char) : Bool :=
  isAsciiLetter c || isAsciiDigit c || c == '+' || c == '-' || c == '.'

-- The scheme in lower case and what follows its colon. Without a scheme the
-- text is left as it is.
def splitScheme (cs : List Char) : List Char × List Char :=
  let head := cs.takeWhile (· != ':')
  match cs.dropWhile (· != ':'), head with
  | _ :: rest, first :: _ =>
    if isAsciiLetter first && head.all isSchemeChar then (head.map Char.toLower, rest) else ([], cs)
  | _, _ => ([], cs)

def endsAuthority (c : Char) : Bool :=
  c == '/' || c == '?' || c == '#'

-- The authority behind two slashes, and what follows it.
def splitAuthority : List Char → List Char × List Char
  | '/' :: '/' :: rest =>
    (rest.takeWhile fun c => !endsAuthority c, rest.dropWhile fun c => !endsAuthority c)
  | cs => ([], cs)

def checkHost (host : List Char) : Except Fault Unit :=
  if host.head? = some 'v' then
    if isFutureAddress host then .ok () else .error .futureAddress
  else if isIpv4 host then .error .ipv4InBrackets
  else if isIpv6 host then .ok ()
  else .error (.noAddress (String.ofList host))

-- Brackets have to enclose the whole host, which is an address then.
def checkBrackets (authority : List Char) : Except Fault Unit :=
  let opens := authority.contains '['
  let closes := authority.contains ']'
  if opens != closes then .error .brackets
  else if !opens then .ok ()
  else
    let hostAndPort := behindLast '@' authority
    let before := hostAndPort.takeWhile (· != '[')
    match hostAndPort.dropWhile (· != '[') with
    | _ :: bracketed =>
      if !before.isEmpty then .error .brackets
      else
        let host := bracketed.takeWhile (· != ']')
        match (bracketed.dropWhile (· != ']')).drop 1 with
        | [] => checkHost host
        | c :: _ => if c = ':' then checkHost host else .error .brackets
    | [] => checkHost (hostAndPort.takeWhile (· != ':'))

-- Characters with a compatible form that contains a delimiter of URIs.
def forbidden : List Nat := [
  0x2047, 0x2048, 0x2049, 0x2100, 0x2101, 0x2105, 0x2106, 0x2A74, 0xFE13, 0xFE16, 0xFE55, 0xFE56,
  0xFE5F, 0xFE6B, 0xFF03, 0xFF0F, 0xFF1A, 0xFF1F, 0xFF20]

def checkAuthority (authority : List Char) : Except Fault Unit :=
  if authority.any fun c => forbidden.contains c.toNat then
    .error (.forbidden (String.ofList authority))
  else .ok ()

-- The schemes whose last path segment may carry a parameter.
def parameterSchemes : List String := [
  "", "ftp", "hdl", "prospero", "http", "imap", "https", "shttp", "rtsp", "rtsps", "rtspu", "sip",
  "sips", "mms", "sftp", "tel"]

-- The path up to the first semicolon of its last segment. A path without a
-- slash is one segment.
def withoutParameter (path : List Char) : List Char :=
  let segment := behindLast '/' path
  path.take (path.length - segment.length) ++ segment.takeWhile (· != ';')

def ofText (cs : List Char) : Except Fault Uri := do
  let cleaned := (cs.dropWhile isLeading).filter fun c => !isDropped c
  let (scheme, rest) := splitScheme cleaned
  let (authority, rest) := splitAuthority rest
  checkBrackets authority
  let path := (rest.takeWhile (· != '#')).takeWhile (· != '?')
  checkAuthority authority
  let hasParameter := parameterSchemes.contains (String.ofList scheme)
  return { scheme, authority, path := if hasParameter then withoutParameter path else path }

-- A cell is a URI if it has no white space, a scheme, and something behind it.
def isUri (cs : List Char) : Bool :=
  !cs.isEmpty && !cs.any isBlank &&
    match ofText cs with
    | .ok uri => !uri.scheme.isEmpty && !(uri.authority.isEmpty && uri.path.isEmpty)
    | .error _ => false

end Uri

end TableSchema
