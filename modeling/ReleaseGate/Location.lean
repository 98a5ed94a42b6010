/-
ReleaseGate/Location.lean

Where an artifact is: the text that a user gives, taken apart.

A location is a bare path, a `file:` URI or an `http:` or `https:` URI.
`Location.split` cuts it into scheme, authority and path; what follows a
`?` or `#` is left out.  Control characters and spaces in front do not
count, nor do tabs and line ends anywhere.  A scheme is an ASCII letter and
then letters, digits, `+`, `-` and `.`; without one the location is local.

The authority is refused when its brackets do not hold a numeric address,
or when one of its characters is another way to write a character that
ends an authority.
-/
import ReleaseGate.Net.Address
import ReleaseGate.Path
import ReleaseGate.Text.Utf8

namespace ReleaseGate

/-- Why a location cannot be taken apart. -/
inductive LocationError where
  /-- A bracket without its partner. -/
  | unbalancedBrackets
  /-- Brackets around something that is no address. -/
  | notAnAddress (host : List Char)
  /-- Brackets around an address of four decimal numbers. -/
  | bracketedIPv4
  /-- Brackets around an address of a future kind that is not well-formed. -/
  | badFutureAddress
  /-- A character that stands for a separator. -/
  | disguisedSeparator (authority : List Char)
  deriving DecidableEq, Repr

/-- What is said about a location that cannot be taken apart. -/
def LocationError.message : LocationError → String
  | unbalancedBrackets => "Invalid IPv6 URL"
  | notAnAddress host =>
    String.ofList (Text.quote host) ++ " does not appear to be an IPv4 or IPv6 address"
  | bracketedIPv4 => "An IPv4 address cannot be in brackets"
  | badFutureAddress => "IPvFuture address is invalid"
  | disguisedSeparator authority =>
    "netloc '" ++ String.ofList authority ++
      "' contains invalid characters under NFKC normalization"

/-- A location in its parts. -/
structure Location where
  /-- In small letters; empty for a local path. -/
  scheme : List Char
  authority : List Char
  path : List Char
  deriving DecidableEq, Repr

namespace Location

/-- A character that does not count at the start of a location. -/
def isLeading (c : Char) : Bool := c.toNat ≤ 32

/-- A character that does not count anywhere in a location. -/
def isIgnored (c : Char) : Bool := c = '\t' || c = '\r' || c = '\n'

/-- The characters of a location that count. -/
def significant (s : List Char) : List Char :=
  (s.dropWhile isLeading).filter fun c => !isIgnored c

/-- A character of a scheme. -/
def isSchemeChar (c : Char) : Bool := c.isAlphanum || c = '+' || c = '-' || c = '.'

/-- The scheme in small letters, and the text after its colon. -/
def splitScheme (s : List Char) : List Char × List Char :=
  let scheme := s.takeWhile isSchemeChar
  match s.drop scheme.length with
  | ':' :: rest =>
    if scheme.head?.any Char.isAlpha then (scheme.map Char.toLower, rest) else ([], s)
  | _ => ([], s)

/-- A character that ends the authority. -/
def endsAuthority (c : Char) : Bool := c = '/' || c = '?' || c = '#'

/-- The authority, and the text after it. -/
def splitAuthority : List Char → List Char × List Char
  | '/' :: '/' :: rest => rest.span fun c => !endsAuthority c
  | s => ([], s)

/-- The characters that are another way to write one of `/?#@:`. -/
def disguises : List Nat :=
  [0x2047, 0x2048, 0x2049, 0x2100, 0x2101, 0x2105, 0x2106, 0x2A74, 0xFE13, 0xFE16, 0xFE55,
    0xFE56, 0xFE5F, 0xFE6B, 0xFF03, 0xFF0F, 0xFF1A, 0xFF1F, 0xFF20]

/-- An address of a kind yet to come: its version, a point and some text. -/
def isFutureAddress : List Char → Bool
  | 'v' :: rest =>
    let version := rest.takeWhile Text.isHexDigit
    match rest.drop version.length with
    | '.' :: text => !version.isEmpty && !text.isEmpty
    | _ => false
  | _ => false

/-- Checks what stands in brackets. -/
def checkBracketed (host : List Char) : Except LocationError Unit :=
  if host.head? = some 'v' then
    if isFutureAddress host then .ok () else .error .badFutureAddress
  else if Net.isIPv4 host then .error .bracketedIPv4
  else if Net.isIPv6 host then .ok ()
  else .error (.notAnAddress host)

/-- Checks an authority. -/
def checkAuthority (authority : List Char) : Except LocationError Unit :=
  let opens := authority.contains '['
  let closes := authority.contains ']'
  if opens != closes then .error .unbalancedBrackets
  else do
    if opens then
      let inside := (authority.dropWhile (· ≠ '[')).drop 1
      checkBracketed (inside.takeWhile (· ≠ ']'))
    if authority.any fun c => disguises.contains c.toNat then
      .error (.disguisedSeparator authority)

/-- The schemes whose paths may end in parameters. -/
def schemesWithParameters : List (List Char) :=
  ["", "ftp", "hdl", "prospero", "http", "imap", "https", "shttp", "rtsp", "rtsps", "rtspu",
    "sip", "sips", "mms", "sftp", "tel"].map String.toList

/-- The last segment of a path, and what stands before it. -/
def splitLast (path : List Char) : List Char × List Char :=
  let last := (path.reverse.takeWhile (· ≠ '/')).reverse
  (path.take (path.length - last.length), last)

/-- A path without the parameters of its last segment, and the parameters. -/
def splitParameters (path : List Char) : List Char × List Char :=
  let (before, last) := splitLast path
  (before ++ last.takeWhile (· ≠ ';'), (last.dropWhile (· ≠ ';')).drop 1)

/-- A path without the parameters of its last segment. -/
def withoutParameters (path : List Char) : List Char := (splitParameters path).1

/-- Takes a location apart. -/
def split (s : List Char) : Except LocationError Location := do
  let (scheme, rest) := splitScheme (significant s)
  let (authority, rest) := splitAuthority rest
  checkAuthority authority
  let path := rest.takeWhile fun c => c ≠ '?' && c ≠ '#'
  return ⟨scheme, authority,
    if schemesWithParameters.contains scheme then withoutParameters path else path⟩

/-- The location is a bare path. -/
def isLocal (l : Location) : Bool := l.scheme.isEmpty

/-- The schemes of locations that have to be fetched. -/
def remoteSchemes : List (List Char) := ["http".toList, "https".toList]

/-- The location has to be fetched. -/
def isRemote (l : Location) : Bool := remoteSchemes.contains l.scheme

/-- Whether a location has to be fetched.  There is no answer for one that
cannot be taken apart. -/
def hasToBeFetched (s : List Char) : Except LocationError Bool := do
  let l ← split s
  return !l.isLocal && l.isRemote

/-- The suffix of the last segment of the path, with its point.  Points at
the start of the segment start no suffix; a point at its end does. -/
def suffix (l : Location) : List Char :=
  let (_, last) := splitLast l.path
  let tail := (last.reverse.takeWhile (· ≠ '.')).reverse
  let stem := last.take (last.length - tail.length - 1)
  if tail.length = last.length || stem.all (· = '.') then [] else '.' :: tail

/-! ### Percent encoding -/

/-- The bytes of an ASCII text in which `%XX` stands for the byte XX. -/
def unescape : List Char → List UInt8
  | '%' :: a :: b :: rest =>
    match Text.hexValue? a, Text.hexValue? b with
    | some x, some y => UInt8.ofNat (16 * x + y) :: unescape rest
    | _, _ => UInt8.ofNat '%'.toNat :: unescape (a :: b :: rest)
  | c :: rest => UInt8.ofNat c.toNat :: unescape rest
  | [] => []

/-- A text with its percent escapes resolved: the ASCII stretches are read
as UTF-8, and other characters stay. -/
def percentDecode (s : List Char) : List Char := go s []
where
  /-- `run` is the ASCII stretch so far, reversed. -/
  go : List Char → List Char → List Char
    | [], run => Text.Utf8.decodeLossy (unescape run.reverse)
    | c :: rest, run =>
      if c.toNat < 128 then go rest (c :: run)
      else Text.Utf8.decodeLossy (unescape run.reverse) ++ c :: go rest []

/-- The path that a `file:` URI names.  Escapes are resolved twice. -/
def filePath (l : Location) : Path := Path.ofChars (percentDecode (percentDecode l.path))

end Location

end ReleaseGate
