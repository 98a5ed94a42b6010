/-
ReleaseGate/Net/Url.lean

The addresses that requests are sent to.

`Url.parse` reads an address and puts it into its normal form: scheme and
host in small letters, the usual port of a scheme left out, the names `.`
and `..` taken out of the path, and characters that may not stand in a part
written as percent escapes, while escapes that are there already stay.

`Url.merge` finds what a relative address means, seen from another one.

The names of hosts may be in any script.  Servers are looked up by an ASCII
form of such a name, and how a name and its ASCII form belong together is a
table of its own, which is left to `HostNames`.
-/
import ReleaseGate.LibraryError
import ReleaseGate.Location
import ReleaseGate.Text.Case
import ReleaseGate.Text.Integer

namespace ReleaseGate.Net

/-- Why an address is refused. -/
inductive UrlError where
  | tooLong
  | nonPrintable (c : Char) (pos : Nat)
  /-- A part of an address that is put together anew. -/
  | partTooLong (part : String)
  | partNonPrintable (part : String) (c : Char) (pos : Nat)
  | badPort (port : List Char)
  | badIPv4 (host : List Char)
  | badIPv6 (host : List Char)
  | badName (host : List Char)
  /-- The path does not start with a slash, though a host stands before it. -/
  | detachedPath
  /-- The path starts with two slashes, and no host stands before it. -/
  | slashesWithoutHost
  /-- The path starts with a colon, and no scheme stands before it. -/
  | colonWithoutScheme
  deriving DecidableEq, Repr

/-- What is said about a refused address. -/
def UrlError.message : UrlError → String
  | tooLong => "URL too long"
  | nonPrintable c pos =>
    "Invalid non-printable ASCII character in URL, " ++ String.ofList (Text.quote [c]) ++
      " at position " ++ toString pos ++ "."
  | partTooLong part => "URL component '" ++ part ++ "' too long"
  | partNonPrintable part c pos =>
    "Invalid non-printable ASCII character in URL " ++ part ++ " component, " ++
      String.ofList (Text.quote [c]) ++ " at position " ++ toString pos ++ "."
  | badPort port => "Invalid port: " ++ String.ofList (Text.quote port)
  | badIPv4 host => "Invalid IPv4 address: " ++ String.ofList (Text.quote host)
  | badIPv6 host => "Invalid IPv6 address: " ++ String.ofList (Text.quote host)
  | badName host => "Invalid IDNA hostname: " ++ String.ofList (Text.quote host)
  | detachedPath => "For absolute URLs, path must be empty or begin with '/'"
  | slashesWithoutHost => "Relative URLs cannot have a path starting with '//'"
  | colonWithoutScheme => "Relative URLs cannot have a path starting with ':'"

/-- How names of hosts that are not ASCII are written in ASCII. -/
structure HostNames where
  /-- The ASCII form of a name in small letters, if it has one. -/
  encode : List Char → Option (List Char) := fun _ => none
  /-- The name that an ASCII form stands for. -/
  decode : List Char → Except LibraryError (List Char) := .ok

/-- An address in its normal form. -/
structure Url where
  scheme : List Char := []
  userInfo : List Char := []
  host : List Char := []
  port : Option Int := none
  path : List Char := []
  query : Option (List Char) := none
  fragment : Option (List Char) := none
  deriving DecidableEq, Repr, Inhabited

namespace Url

/-! ### Escapes -/

/-- A character that never needs an escape. -/
def isUnreserved (c : Char) : Bool := c.isAlphanum || c = '-' || c = '.' || c = '_' || c = '~'

/-- A printable ASCII character outside a list. -/
def isPlainBut (forbidden : String) (c : Char) : Bool :=
  isUnreserved c || (32 ≤ c.toNat && c.toNat < 127 && !forbidden.toList.contains c)

/-- A character that stays as it is in a fragment. -/
def inFragment : Char → Bool := isPlainBut " \"<>\u0060"

/-- A character that stays as it is in a query. -/
def inQuery : Char → Bool := isPlainBut " \"#<>"

/-- A character that stays as it is in a path. -/
def inPath : Char → Bool := isPlainBut " \"#<>?\u0060\x7b\x7d"

/-- A character that stays as it is in front of the host. -/
def inUserInfo : Char → Bool := isPlainBut " \"#<>?\u0060\x7b\x7d/;=@[\\]^|"

/-- A character that stays as it is in the name of a host. -/
def inHost (c : Char) : Bool :=
  isUnreserved c || "!$&'()*+,;=\"\u0060\x7b\x7d%|\\".toList.contains c

/-- One byte as an escape. -/
def escapeByte (b : UInt8) : List Char := '%' :: (Text.hex 2 b.toNat).map Char.toUpper

/-- A text with all characters escaped that may not stay. -/
def escape (stays : Char → Bool) : List Char → List Char
  | [] => []
  | '%' :: a :: b :: rest =>
    if Text.isHexDigit a && Text.isHexDigit b then '%' :: a :: b :: escape stays rest
    else (if stays '%' then ['%'] else escapeByte 0x25) ++ escape stays (a :: b :: rest)
  | c :: rest =>
    (if stays c then [c] else (Text.Utf8.encode [c]).flatMap escapeByte) ++ escape stays rest

/-! ### Parts -/

/-- The parts of an address as they are written. -/
structure Raw where
  scheme : List Char
  authority : List Char
  path : List Char
  query : Option (List Char)
  fragment : Option (List Char)
  deriving DecidableEq, Repr

/-- The text up to a mark, and the text after the mark if it is there. -/
def cut (mark : Char) (s : List Char) : List Char × Option (List Char) :=
  match s.dropWhile (· ≠ mark) with
  | _ :: rest => (s.takeWhile (· ≠ mark), some rest)
  | [] => (s, none)

/-- The scheme as it is written, and the text after its colon. -/
def cutScheme (s : List Char) : List Char × List Char :=
  let scheme := s.takeWhile Location.isSchemeChar
  match s.drop scheme.length with
  | ':' :: rest =>
    if scheme.isEmpty || scheme.head?.any Char.isAlpha then (scheme, rest) else ([], s)
  | _ => ([], s)

/-- Takes an address apart. -/
def Raw.ofChars (s : List Char) : Raw :=
  let (scheme, rest) := cutScheme s
  let (authority, rest) := Location.splitAuthority rest
  let (rest, fragment) := cut '#' rest
  let (path, query) := cut '?' rest
  ⟨scheme, authority, path, query, fragment⟩

/-- The end of a text from its last `mark` on, without the mark. -/
def afterLast? (mark : Char) (s : List Char) : Option (List Char × List Char) :=
  let tail := (s.reverse.takeWhile (· ≠ mark)).reverse
  if tail.length = s.length then none
  else some (s.take (s.length - tail.length - 1), tail)

/-- The three parts of an authority: what stands in front of the host, the
host, and the port. -/
def splitHost (authority : List Char) : List Char × List Char × List Char :=
  let (userInfo, rest) := (afterLast? '@' authority).getD ([], authority)
  let bracketed : Option (List Char × List Char) :=
    if rest.head? = some '[' then (afterLast? ']' rest).map fun (h, r) => (h ++ [']'], r) else none
  let (host, rest) := bracketed.getD (rest.span fun c => c ≠ ':' && c ≠ '@')
  (userInfo, host, if rest.head? = some ':' then rest.drop 1 else rest)

/-- The runs of digits in a text, one more than there are other characters. -/
def digitRuns : List Char → List (List Char)
  | [] => [[]]
  | c :: rest =>
    if c.isDigit then
      match digitRuns rest with
      | [] => [[c]]
      | run :: runs => (c :: run) :: runs
    else [] :: digitRuns rest

/-- A text that has the shape of four numbers with one character of any kind
between them.  A digit between two digits may be such a character. -/
def looksLikeIPv4 (s : List Char) : Bool :=
  let runs := digitRuns s
  runs.all (fun run => !run.isEmpty) && runs.length ≤ 4 &&
    4 ≤ runs.foldl (fun n run => n + 1 + (run.length - 1) / 2) 0

/-- The normal form of a host. -/
def normalHost (names : HostNames) (host : List Char) : Except UrlError (List Char) :=
  if host.isEmpty then .ok []
  else if looksLikeIPv4 host then
    if isIPv4 host then .ok host else .error (.badIPv4 host)
  else if host.head? = some '[' && host.getLast? = some ']' then
    let inside := (host.drop 1).dropLast
    if isIPv6 inside then .ok inside else .error (.badIPv6 host)
  else if host.all (·.toNat < 128) then .ok (escape inHost (Text.lower host))
  else
    match names.encode (Text.lower host) with
    | some encoded => .ok encoded
    | none => .error (.badName host)

/-- The port that a scheme uses when none is given. -/
def usualPort? (scheme : List Char) : Option Int :=
  match String.ofList scheme with
  | "ftp" => some 21
  | "http" | "ws" => some 80
  | "https" | "wss" => some 443
  | _ => none

/-- The normal form of a port. -/
def normalPort (scheme port : List Char) : Except UrlError (Option Int) :=
  if port.isEmpty then .ok none
  else
    match Text.integer? port with
    | none => .error (.badPort port)
    | some n => .ok (if usualPort? scheme = some n then none else some n)

/-- A path with `.` and `..` taken out; `done` are the names so far, last one
first. -/
def foldDots : List (List Char) → List (List Char) → List (List Char)
  | [], done => done.reverse
  | n :: rest, done =>
    if n = ['.'] then foldDots rest done
    else if n = ['.', '.'] then foldDots rest (if done = [[]] then done else done.tail)
    else foldDots rest (n :: done)

/-- The normal form of a path. -/
def normalPath (path : List Char) : List Char :=
  Text.join '/' (foldDots (Text.split '/' path) [])

/-- Checks a path against what stands before it. -/
def checkPath (hasScheme hasHost : Bool) (path : List Char) : Except UrlError Unit :=
  if hasHost && !path.isEmpty && path.head? ≠ some '/' then .error .detachedPath
  else if !hasScheme && !hasHost && path.take 2 = ['/', '/'] then .error .slashesWithoutHost
  else if !hasScheme && !hasHost && path.head? = some ':' then .error .colonWithoutScheme
  else .ok ()

/-- The longest address that is read. -/
def maxLength : Nat := 65536

/-- An ASCII character that does not print. -/
def isControl (c : Char) : Bool := c.toNat < 32 || c.toNat = 127

/-- The normal form of an address in its parts. -/
def ofRaw (names : HostNames) (r : Raw) : Except UrlError Url := do
  let (userInfo, host, port) := splitHost r.authority
  let userInfo := escape inUserInfo userInfo
  let host ← normalHost names host
  let port ← normalPort r.scheme port
  let hasScheme := !r.scheme.isEmpty
  let hasHost := !userInfo.isEmpty || !host.isEmpty || port.isSome
  checkPath hasScheme hasHost r.path
  let path := if hasScheme || hasHost then normalPath r.path else r.path
  return {
    scheme := r.scheme.map Char.toLower
    userInfo, host, port
    path := escape inPath path
    query := r.query.map (escape inQuery)
    fragment := r.fragment.map (escape inFragment) }

/-- Reads an address. -/
def parse (names : HostNames) (s : List Char) : Except UrlError Url :=
  if maxLength < s.length then .error .tooLong
  else
    match s.find? isControl with
    | some c => .error (.nonPrintable c (s.takeWhile fun d => !isControl d).length)
    | none => ofRaw names (Raw.ofChars s)

/-! ### Writing -/

/-- The authority of an address. -/
def authority (u : Url) : List Char :=
  (if u.userInfo.isEmpty then [] else u.userInfo ++ ['@']) ++
    (if u.host.contains ':' then '[' :: u.host ++ [']'] else u.host) ++
    match u.port with
    | some n => ':' :: (toString n).toList
    | none => []

/-- An address as it is written. -/
def chars (u : Url) : List Char :=
  (if u.scheme.isEmpty then [] else u.scheme ++ [':']) ++
    (if u.authority.isEmpty then [] else '/' :: '/' :: u.authority) ++ u.path ++
    (match u.query with
      | some q => '?' :: q
      | none => []) ++
    match u.fragment with
    | some f => '#' :: f
    | none => []

/-- An address as it is written. -/
def text (u : Url) : String := String.ofList u.chars

/-- An address with a scheme and a host. -/
def isAbsolute (u : Url) : Bool := !u.scheme.isEmpty && !u.host.isEmpty

/-- What a request is sent to: an address that is not absolute keeps only its
path, from the root, and its query. -/
def target (u : Url) : Url :=
  if u.isAbsolute then u
  else { path := '/' :: u.path.dropWhile (· = '/'), query := u.query }

/-- Checks a part of an address that is put together anew. -/
def checkPart (part : String) (s : List Char) : Except UrlError Unit :=
  if maxLength < s.length then .error (.partTooLong part)
  else
    match s.find? isControl with
    | some c => .error (.partNonPrintable part c (s.takeWhile fun d => !isControl d).length)
    | none => .ok ()

/-- Checks the parts of an address that is put together anew. -/
def checkParts (u : Url) : Except UrlError Unit := do
  checkPart "scheme" u.scheme
  checkPart "authority" u.authority
  checkPart "path" u.path
  checkPart "query" (u.query.getD [])
  checkPart "fragment" (u.fragment.getD [])

/-- An address with another fragment. -/
def setFragment (u : Url) (f : List Char) : Except UrlError Url := do
  checkParts { u with fragment := some f }
  return { u with fragment := some (escape inFragment f) }

/-! ### Relative addresses -/

/-- The names of a path with `.` and `..` resolved; `done` are the names so
far, last one first. -/
def resolveDots : List (List Char) → List (List Char) → List (List Char)
  | [], done => done.reverse
  | n :: rest, done =>
    if n = ['.', '.'] then resolveDots rest done.tail
    else if n = ['.'] then resolveDots rest done
    else resolveDots rest (n :: done)

/-- The path that `path` means, seen from the path `base`. -/
def mergePath (base path : List Char) : List Char :=
  let names :=
    if path.head? = some '/' then Text.split '/' path
    else
      let all := (Text.split '/' base).dropLast ++ Text.split '/' path
      -- Empty names inside would double a slash.
      all.take 1 ++ ((all.drop 1).dropLast.filter fun n => !n.isEmpty) ++ (all.drop 1).drop (all.length - 2)
  let resolved := resolveDots names []
  let isDir := names.getLast? = some ['.'] || names.getLast? = some ['.', '.']
  match Text.join '/' (if isDir then resolved ++ [[]] else resolved) with
  | [] => ['/']
  | merged => merged

/-- A path with the parameters of its last segment, if there are any. -/
def withParameters (path params : List Char) : List Char :=
  if params.isEmpty then path else path ++ ';' :: params

/-- The address that `u` means, seen from `base`, as it is written.  The
parameters of a path take no part in resolving its names. -/
def merge (base u : Url) : List Char :=
  let query (q : Option (List Char)) : List Char :=
    match q with
    | some (c :: rest) => '?' :: c :: rest
    | _ => []
  let fragment : List Char :=
    match u.fragment with
    | some (c :: rest) => '#' :: c :: rest
    | _ => []
  if !u.scheme.isEmpty && u.scheme ≠ base.scheme then u.chars
  else
    let start := base.scheme ++ [':']
    let (basePath, baseParams) := Location.splitParameters base.path
    let (path, params) := Location.splitParameters u.path
    if !u.authority.isEmpty then
      start ++ '/' :: '/' :: u.authority ++ withParameters path params ++ query u.query ++ fragment
    else
      let start := start ++ '/' :: '/' :: base.authority
      if path.isEmpty && params.isEmpty then
        let q := query u.query
        start ++ withParameters basePath baseParams ++ (if q.isEmpty then query base.query else q) ++
          fragment
      else
        let path := mergePath basePath path
        let path := if path.head? = some '/' then path else '/' :: path
        start ++ withParameters path params ++ query u.query ++ fragment

end Url

end ReleaseGate.Net
