/-
ReleaseGate/Net/Redirect.lean

The usual library of clients.

It reads addresses with `Url.parse`.  A redirect may leave out parts of the
address that it names, which are then taken from the address that was asked
for.  Bodies may be compressed in the ways that `Coding` knows, and a client
that a caller hands in stays where it was sent.
-/
import ReleaseGate.Net.Client
import ReleaseGate.Net.Coding

namespace ReleaseGate.Net

/-- What the ASCII forms of names start with. -/
def encodedStart : List Char := "xn--".toList

/-- The name of the host of an address. -/
def hostName (names : HostNames) (u : Url) : Except Fault (List Char) :=
  if encodedStart.isPrefixOf u.host then (names.decode u.host).mapError .foreign else .ok u.host

/-- The host of an address, written anew from its name. -/
def hostOfName (names : HostNames) (u : Url) (name : List Char) : Except Fault (List Char) :=
  if name = u.host then .ok name else (Url.normalHost names name).mapError .refused

/-- An address with a scheme but no host, on the host that was asked. -/
def onHost (names : HostNames) (asked next : Url) : Except Fault Url := do
  if next.scheme.isEmpty then return next
  if !(← hostName names next).isEmpty then return next
  let name ← hostName names asked
  next.checkParts.mapError .refused
  let host ← hostOfName names asked name
  (Url.checkPath true true next.path).mapError .refused
  return { next with host, path := Url.normalPath next.path }

/-- An address seen from the one that was asked for. -/
def seenFrom (names : HostNames) (asked next : Url) : Except Fault Url :=
  if next.isAbsolute then .ok next else (Url.parse names (asked.merge next)).mapError .refused

/-- An address with the fragment of the one that was asked for, unless it has
its own. -/
def withFragment (asked next : Url) : Except Fault Url :=
  match asked.fragment, next.fragment with
  | some f, none | some f, some [] =>
    if f.isEmpty then return next
    else (next.setFragment (Location.percentDecode f)).mapError .refused
  | _, _ => return next

/-- The address that a redirect leads to.  A part that it leaves out is taken
from the address that was asked for. -/
def redirectTarget (names : HostNames) (asked : Url) (location : String) : Except Fault Url := do
  let next ← (Url.parse names location.toList).mapError fun e =>
    .failed ("Invalid URL in location header: " ++ e.message ++ ".")
  let next ← onHost names asked next
  let next ← seenFrom names asked next
  let next ← withFragment asked next
  -- Both names are read to tell whether the redirect leads to another host.
  let both := if next.scheme = asked.scheme then [next, asked] else [asked, next]
  let _ ← both.mapM (hostName names)
  return next

/-- The library that clients come from, where names are written in ASCII as
`names` has it. -/
def Library.usual (names : HostNames := {}) : Library where
  first _ address := ((Url.parse names address.toList).map Url.target).mapError .refused
  next _ := redirectTarget names
  decode headers body :=
    let codings := (headerValues headers "content-encoding").flatMap Coding.named
    (Coding.undoAll codings body).mapError (·.message)
  complaint r url := statusMessage r.status url.text r.location?
  given := none

end ReleaseGate.Net
