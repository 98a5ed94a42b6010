/-
ReleaseGate/Net/Client.lean

Getting a file from a server.

A server answers each request from what it was asked before.  A client is
either one that a caller hands in or the standard one, which goes on to the
address that a redirect names, twenty times at most.  `get` gives the outcome
together with the requests sent.

Clients come from a library.  The gate does not know how it reads an address,
where it goes from a redirect, how it undoes the coding of a body, and how a
client was made that a caller hands in; a `Library` is what it does in these
matters.  Only the course of requests is settled here: a response with a
status for redirects and an address to go to is followed, by a client that
follows any, after its body was read, and the last response counts.

The status comes before the body: an address where nothing is found counts
as missing however its body arrives.
-/
import ReleaseGate.Net.Status
import ReleaseGate.Net.Url

namespace ReleaseGate.Net

/-- Who sends a request. -/
inductive Client where
  /-- A client handed in by the caller. -/
  | given
  /-- The standard client: how it calls itself, and how many seconds it waits. -/
  | standard (userAgent : String) (timeout : Option Float)
  deriving Inhabited

/-- A request for a file. -/
structure Request where
  url : String
  client : Client
  deriving Inhabited

/-- What a server sends. -/
structure Response where
  status : Nat
  headers : List (String × String) := []
  body : ByteArray := .empty
  /-- What breaks the connection off after the body has arrived. -/
  breakOff : Option String := none

/-- What becomes of a request. -/
inductive Reply where
  | failure (message : String)
  | response (r : Response)
  /-- An error on the way that the library does not count as a failed request. -/
  | foreign (e : LibraryError)

/-- A server: what it replies to a request after some earlier ones. -/
abbrev Server := List Request → Request → Reply

/-- What stops a client. -/
inductive Fault where
  /-- A request that failed. -/
  | failed (message : String)
  /-- An address that no request can be sent to. -/
  | refused (e : UrlError)
  /-- An error that the library does not count as a failed request. -/
  | foreign (e : LibraryError)

/-- What becomes of getting a file. -/
inductive Outcome where
  | missing (status : Nat)
  | stopped (fault : Fault)
  | body (content : ByteArray)

/-- What a library of clients does. -/
structure Library where
  /-- Where the first request for an address goes. -/
  first : Client → String → Except Fault Url
  /-- Where a redirect leads, seen from the address that was asked for. -/
  next : Client → Url → String → Except Fault Url
  /-- What a body holds, by the headers before it. -/
  decode : List (String × String) → ByteArray → Except String ByteArray
  /-- What is said about a response whose status is no success. -/
  complaint : Response → Url → String
  /-- How many redirects a client of the caller follows, if it follows any. -/
  given : Option Nat

/-- The values of a header; its name may be in any letters. -/
def headerValues (headers : List (String × String)) (name : String) : List String :=
  (headers.filter fun (n, _) => Text.lower n.toList == name.toList).map (·.2)

namespace Response

/-- Where the response sends the client. -/
def location? (r : Response) : Option String :=
  if isRedirect r.status then
    match headerValues r.headers "location" with
    | [] => none
    | values => some (", ".intercalate values)
  else none

/-- The body, or what goes wrong on the way. -/
def read (library : Library) (r : Response) : Except String ByteArray := do
  let body ← library.decode r.headers r.body
  match r.breakOff with
  | some message => .error message
  | none => return body

/-- What a response means for the file that was asked for. -/
def outcome (library : Library) (r : Response) (url : Url) : Outcome :=
  if isMissing r.status then .missing r.status
  else if isSuccess r.status then
    match r.read library with
    | .ok body => .body body
    | .error message => .stopped (.failed message)
  else .stopped (.failed (library.complaint r url))

end Response

/-- How many redirects the standard client follows. -/
def maxRedirects : Nat := 20

namespace Library

/-- How many redirects a client follows, if it follows any. -/
def redirects? (library : Library) : Client → Option Nat
  | .given => library.given
  | .standard _ _ => some maxRedirects

/-- How many requests a client sends at most. -/
def reach (library : Library) (client : Client) : Nat := (library.redirects? client).getD 0 + 1

end Library

/-- Asks for an address, and goes on to where it leads, `left` requests at
most.  `sent` are all earlier requests. -/
def follow (library : Library) (server : Server) (client : Client) :
    Nat → Url → List Request → Outcome × List Request
  | 0, _, sent => (.stopped (.failed "Exceeded maximum allowed redirects."), sent)
  | left + 1, url, sent =>
    let request : Request := ⟨url.text, client⟩
    let now := sent ++ [request]
    match server sent request with
    | .failure message => (.stopped (.failed message), now)
    | .foreign e => (.stopped (.foreign e), now)
    | .response r =>
      match r.location? with
      | none => (r.outcome library url, now)
      | some location =>
        match library.next client url location with
        | .error fault => (.stopped fault, now)
        | .ok next =>
          match library.redirects? client with
          | none => (r.outcome library url, now)
          | some _ =>
            match r.read library with
            | .error message => (.stopped (.failed message), now)
            | .ok _ => follow library server client left next now

/-- Gets the file at an address. -/
def get (library : Library) (server : Server) (client : Client) (address : String)
    (sent : List Request) : Outcome × List Request :=
  match library.first client address with
  | .error fault => (.stopped fault, sent)
  | .ok url => follow library server client (library.reach client) url sent

end ReleaseGate.Net
