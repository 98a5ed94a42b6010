/-
ReleaseGate/Proofs/Net/Chain.lean

Chains of requests, and how they end.

To get a file, a client sends a request, and another one wherever a redirect
leads it.  `Chain library server client left url sent asked ending` says that,
after the requests `sent`, these are the requests `asked`, `left` at most,
from `url` on, and that the last of them comes to `ending`.  There are two
endings: a response that is not followed, or something that stops the client
on the way.

Design.  The relation has a constructor for each thing that can become of a
request, and no more than one of them fits.  So a client goes along one chain
(`exists_chain`), and gives the outcome of its ending (`Chain.follow_eq`).
What holds of every way to follow redirects is read off the ending; above
all, a file is missing only by the word of the last server that was asked.

Main results: `exists_chain`, `Chain.follow_eq`, `Chain.length_le`,
`Chain.last_request`, `sends_of_get`, `hasNothing_of_get`.
-/
import ReleaseGate.Proofs.Net.Client

namespace ReleaseGate.Net

/-- How a chain of requests ends. -/
inductive Ending where
  /-- With a response that is not followed. -/
  | final (r : Response) (url : Url)
  /-- With something that stops the client. -/
  | stopped (fault : Fault)

/-- What an ending means for the file that was asked for. -/
def Ending.outcome (library : Library) : Ending → Outcome
  | final r url => r.outcome library url
  | stopped fault => .stopped fault

/-- The requests that a client sends from an address on, and their ending. -/
inductive Chain (library : Library) (server : Server) (client : Client) :
    Nat → Url → List Request → List Request → Ending → Prop
  | exhausted {url : Url} {sent : List Request} : Chain library server client 0 url sent []
      (.stopped (.failed "Exceeded maximum allowed redirects."))
  | failure {left url sent message} : server sent ⟨url.text, client⟩ = .failure message →
      Chain library server client (left + 1) url sent [⟨url.text, client⟩]
        (.stopped (.failed message))
  | foreign {left url sent e} : server sent ⟨url.text, client⟩ = .foreign e →
      Chain library server client (left + 1) url sent [⟨url.text, client⟩] (.stopped (.foreign e))
  | final {left url sent r} : server sent ⟨url.text, client⟩ = .response r →
      r.location? = none →
      Chain library server client (left + 1) url sent [⟨url.text, client⟩] (.final r url)
  | astray {left url sent r location fault} : server sent ⟨url.text, client⟩ = .response r →
      r.location? = some location → library.next client url location = .error fault →
      Chain library server client (left + 1) url sent [⟨url.text, client⟩] (.stopped fault)
  | stays {left url sent r location next} : server sent ⟨url.text, client⟩ = .response r →
      r.location? = some location → library.next client url location = .ok next →
      library.redirects? client = none →
      Chain library server client (left + 1) url sent [⟨url.text, client⟩] (.final r url)
  | cutOff {left url sent r location next message} :
      server sent ⟨url.text, client⟩ = .response r →
      r.location? = some location → library.next client url location = .ok next →
      library.redirects? client ≠ none → r.read library = .error message →
      Chain library server client (left + 1) url sent [⟨url.text, client⟩]
        (.stopped (.failed message))
  | followed {left url sent r location next content asked ending} :
      server sent ⟨url.text, client⟩ = .response r →
      r.location? = some location → library.next client url location = .ok next →
      library.redirects? client ≠ none → r.read library = .ok content →
      Chain library server client left next (sent ++ [⟨url.text, client⟩]) asked ending →
      Chain library server client (left + 1) url sent (⟨url.text, client⟩ :: asked) ending

variable {library : Library} {server : Server} {client : Client} {left : Nat} {url : Url}
variable {sent asked sent' : List Request} {ending : Ending} {status : Nat}

/-- A client goes along some chain. -/
theorem exists_chain (library : Library) (server : Server) (client : Client) (left : Nat)
    (url : Url) (sent : List Request) :
    ∃ asked ending, Chain library server client left url sent asked ending := by
  induction left generalizing url sent with
  | zero => exact ⟨_, _, .exhausted⟩
  | succ left ih =>
    rcases hreply : server sent ⟨url.text, client⟩ with message | r | e
    · exact ⟨_, _, .failure hreply⟩
    · rcases hlocation : r.location? with - | location
      · exact ⟨_, _, .final hreply hlocation⟩
      rcases hnext : library.next client url location with fault | next
      · exact ⟨_, _, .astray hreply hlocation hnext⟩
      by_cases hstays : library.redirects? client = none
      · exact ⟨_, _, .stays hreply hlocation hnext hstays⟩
      rcases hread : r.read library with message | content
      · exact ⟨_, _, .cutOff hreply hlocation hnext hstays hread⟩
      · obtain ⟨asked, ending, hchain⟩ := ih next (sent ++ [⟨url.text, client⟩])
        exact ⟨_, _, .followed hreply hlocation hnext hstays hread hchain⟩
    · exact ⟨_, _, .foreign hreply⟩

/-- The outcome is that of the ending, and the requests are those of the
chain. -/
theorem Chain.follow_eq (h : Chain library server client left url sent asked ending) :
    follow library server client left url sent = (ending.outcome library, sent ++ asked) := by
  induction h with
  | exhausted =>
    rw [follow, List.append_nil]
    rfl
  | failure hreply | foreign hreply =>
    rw [follow, hreply]
    rfl
  | final hreply hlocation =>
    simp only [follow, hreply, hlocation]
    rfl
  | astray hreply hlocation hnext =>
    simp only [follow, hreply, hlocation, hnext]
    rfl
  | stays hreply hlocation hnext hstays =>
    simp only [follow, hreply, hlocation, hnext, hstays]
    rfl
  | cutOff hreply hlocation hnext hgoes hread =>
    obtain ⟨n, hgoes⟩ := Option.ne_none_iff_exists'.1 hgoes
    simp only [follow, hreply, hlocation, hnext, hgoes, hread]
    rfl
  | followed hreply hlocation hnext hgoes hread _ ih =>
    obtain ⟨n, hgoes⟩ := Option.ne_none_iff_exists'.1 hgoes
    simp only [follow, hreply, hlocation, hnext, hgoes, hread]
    rw [ih, List.append_assoc]
    rfl

/-- A chain is no longer than it may be. -/
theorem Chain.length_le (h : Chain library server client left url sent asked ending) :
    asked.length ≤ left := by
  induction h with
  | exhausted => exact Nat.le_refl 0
  | followed _ _ _ _ _ _ ih => exact Nat.succ_le_succ ih
  | failure | foreign | final | astray | stays | cutOff =>
    exact Nat.succ_le_succ (Nat.zero_le _)

/-- A final response answers the last request. -/
theorem Chain.last_request {r : Response} {last : Url}
    (h : Chain library server client left url sent asked (.final r last)) :
    ∃ earlier, asked = earlier ++ [⟨last.text, client⟩] ∧
      server (sent ++ earlier) ⟨last.text, client⟩ = .response r := by
  generalize hending : Ending.final r last = ending at h
  induction h with
  | exhausted | failure | foreign | astray | cutOff => cases hending
  | final hreply | stays hreply =>
    obtain ⟨rfl, rfl⟩ := Ending.final.inj hending
    exact ⟨[], rfl, by rwa [List.append_nil]⟩
  | followed _ _ _ _ _ _ ih =>
    obtain ⟨earlier, rfl, hreply⟩ := ih hending
    refine ⟨_ :: earlier, rfl, ?_⟩
    rw [List.append_assoc] at hreply
    exact hreply

/-! ### What is sent -/

/-- The file that a server has at an address: after the requests `sent` the
chain from the address ends with a response that says that all went well, and
whose body holds `content`. -/
structure Sends (library : Library) (server : Server) (client : Client) (address : String)
    (sent : List Request) (content : ByteArray) : Prop where
  chain : ∃ url asked r last, library.first client address = .ok url ∧
    Chain library server client (library.reach client) url sent asked (.final r last) ∧
    isSuccess r.status ∧ r.Holds library content

/-- **A body** is what the last server sent. -/
theorem sends_of_get {address : String} {content : ByteArray}
    (h : get library server client address sent = (.body content, sent')) :
    Sends library server client address sent content := by
  unfold get at h
  rcases hurl : library.first client address with fault | url
  · rw [hurl] at h
    cases h
  rw [hurl] at h
  obtain ⟨asked, ending, hchain⟩ :=
    exists_chain library server client (library.reach client) url sent
  obtain ⟨houtcome, -⟩ := Prod.mk.inj (hchain.follow_eq.symm.trans h)
  cases ending with
  | final r last =>
    -- of all that a last response can mean only one is a body
    change r.outcome library last = .body content at houtcome
    rcases r.outcome_cases library last with ⟨-, ho⟩ | ⟨body, hsuccess, hholds, ho⟩ |
        ⟨_, -, -, ho⟩ | ⟨-, -, ho⟩
    · cases ho.symm.trans houtcome
    · obtain rfl := Outcome.body.inj (ho.symm.trans houtcome)
      exact ⟨url, asked, r, last, hurl, hchain, hsuccess, hholds⟩
    · cases ho.symm.trans houtcome
    · cases ho.symm.trans houtcome
  | stopped fault => cases houtcome

/-! ### What is missing -/

/-- The last request was answered with a status that says that nothing is
there. -/
def LastIsMissing (server : Server) (status : Nat) (sent : List Request) : Prop :=
  ∃ earlier request r, sent = earlier ++ [request] ∧ server earlier request = .response r ∧
    r.status = status ∧ (status = 404 ∨ status = 410)

/-- A file is missing by the word of a final response. -/
theorem follow_missing
    (h : follow library server client left url sent = (.missing status, sent')) :
    LastIsMissing server status sent' := by
  obtain ⟨asked, ending, hchain⟩ := exists_chain library server client left url sent
  obtain ⟨houtcome, rfl⟩ := Prod.mk.inj (hchain.follow_eq.symm.trans h)
  cases ending with
  | final r last =>
    obtain ⟨earlier, rfl, hreply⟩ := hchain.last_request
    refine ⟨sent ++ earlier, _, r, ?_, hreply, Response.outcome_missing houtcome⟩
    rw [List.append_assoc]
  | stopped fault => cases houtcome

/-- Nothing is at an address: it was asked for, and the last answer said so. -/
def HasNothing (library : Library) (server : Server) (address : String)
    (before sent : List Request) : Prop :=
  ∃ client status, get library server client address before = (.missing status, sent) ∧
    LastIsMissing server status sent

/-- **A file is missing** by the word of the server that was asked last. -/
theorem hasNothing_of_get {address : String}
    (h : get library server client address sent = (.missing status, sent')) :
    HasNothing library server address sent sent' := by
  refine ⟨client, status, h, ?_⟩
  unfold get at h
  split at h
  · cases h
  · exact follow_missing h

end ReleaseGate.Net
