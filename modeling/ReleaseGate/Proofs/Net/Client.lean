/-
ReleaseGate/Proofs/Net/Client.lean

What a client makes of one response.

The status of a response comes first: it says that nothing is there, that
all went well, or something else (`Response.outcome_cases`).  Only where all
went well the body counts, and then all of it has to be there
(`Response.Holds`).  All this holds for any library.

The usual library follows a redirect to the address that it names.  If there
is no address to be read, the request failed; whatever else can be wrong with
the redirect is told in another way (`NeverFails`).

Main results: `Response.outcome_cases`, `redirectTarget_eq_failed`.
-/
import ReleaseGate.Net.Redirect

namespace ReleaseGate.Net

variable {α β : Type} {library : Library} {status : Nat}

/-! ### Responses -/

theorem isMissing_iff : isMissing status = true ↔ status = 404 ∨ status = 410 := by
  simp [isMissing]

/-- The whole body of the response arrived, and it holds `content`. -/
structure Response.Holds (library : Library) (r : Response) (content : ByteArray) : Prop where
  whole : r.breakOff = none
  decoded : library.decode r.headers r.body = .ok content

theorem Response.read_eq_ok_iff {r : Response} {content : ByteArray} :
    r.read library = .ok content ↔ r.Holds library content := by
  constructor
  · intro h
    simp only [Response.read] at h
    rcases hbody : library.decode r.headers r.body with defect | body
    · rw [hbody] at h
      cases h
    rcases hbreak : r.breakOff with - | message
    · rw [hbody, hbreak] at h
      obtain ⟨⟩ := h
      exact ⟨hbreak, hbody⟩
    · rw [hbody, hbreak] at h
      cases h
  · rintro ⟨hwhole, hbody⟩
    simp only [Response.read, hbody, hwhole]
    rfl

/-- In the usual library, a body without a coding is the content itself. -/
theorem Response.Holds.eq_body {names : HostNames} {r : Response} {content : ByteArray}
    (h : r.Holds (.usual names) content)
    (hplain : (headerValues r.headers "content-encoding").flatMap Coding.named = []) :
    content = r.body := by
  have hbody := h.decoded
  simp only [Library.usual, hplain] at hbody
  exact (Except.ok.inj hbody).symm

/-- What comes of a last response. -/
theorem Response.outcome_cases (library : Library) (r : Response) (url : Url) :
    ((r.status = 404 ∨ r.status = 410) ∧ r.outcome library url = .missing r.status) ∨
    (∃ content, isSuccess r.status = true ∧ r.Holds library content ∧
      r.outcome library url = .body content) ∨
    (∃ message, isSuccess r.status = true ∧ r.read library = .error message ∧
      r.outcome library url = .stopped (.failed message)) ∨
    (¬ (r.status = 404 ∨ r.status = 410) ∧ isSuccess r.status = false ∧
      r.outcome library url = .stopped (.failed (library.complaint r url))) := by
  unfold Response.outcome
  by_cases hmissing : isMissing r.status = true
  · rw [if_pos hmissing]
    exact .inl ⟨isMissing_iff.1 hmissing, rfl⟩
  rw [if_neg hmissing]
  right
  by_cases hsuccess : isSuccess r.status = true
  · rw [if_pos hsuccess]
    rcases hread : r.read library with message | content
    · exact .inr (.inl ⟨message, hsuccess, rfl, rfl⟩)
    · exact .inl ⟨content, hsuccess, Response.read_eq_ok_iff.1 hread, rfl⟩
  · rw [if_neg hsuccess]
    refine .inr (.inr ⟨fun h => hmissing (isMissing_iff.2 h), ?_, rfl⟩)
    simpa using hsuccess

theorem Response.outcome_missing {r : Response} {url : Url}
    (h : r.outcome library url = .missing status) :
    r.status = status ∧ (status = 404 ∨ status = 410) := by
  rcases r.outcome_cases library url with ⟨hmissing, ho⟩ | ⟨content, -, -, ho⟩ |
      ⟨message, -, -, ho⟩ | ⟨-, -, ho⟩
  · rw [ho] at h
    obtain rfl := Outcome.missing.inj h
    exact ⟨rfl, hmissing⟩
  all_goals
    rw [ho] at h
    cases h

/-! ### Redirects of the usual library -/

/-- The answer is an address, or something else is wrong than a request that
failed. -/
def NeverFails (answer : Except Fault α) : Prop := ∀ message, answer ≠ .error (.failed message)

theorem neverFails_ok (x : α) : NeverFails (.ok x) := nofun

theorem neverFails_refused (answer : Except UrlError α) :
    NeverFails (answer.mapError .refused) := by
  rcases answer with e | x <;> exact nofun

theorem neverFails_foreign (answer : Except LibraryError α) :
    NeverFails (answer.mapError .foreign) := by
  rcases answer with e | x <;> exact nofun

theorem NeverFails.bind {answer : Except Fault α} {next : α → Except Fault β}
    (h : NeverFails answer) (hnext : ∀ x, NeverFails (next x)) : NeverFails (answer >>= next) := by
  rcases answer with e | x
  · intro message hm
    exact h message (congrArg Except.error (Except.error.inj hm))
  · exact hnext x

theorem neverFails_hostName (names : HostNames) (u : Url) : NeverFails (hostName names u) := by
  unfold hostName
  split
  · exact neverFails_foreign _
  · exact neverFails_ok _

theorem neverFails_hostOfName (names : HostNames) (u : Url) (name : List Char) :
    NeverFails (hostOfName names u name) := by
  unfold hostOfName
  split
  · exact neverFails_ok _
  · exact neverFails_refused _

theorem neverFails_onHost (names : HostNames) (asked next : Url) :
    NeverFails (onHost names asked next) := by
  unfold onHost
  split
  · exact neverFails_ok _
  refine (neverFails_hostName names next).bind fun own => ?_
  split
  · exact neverFails_ok _
  refine (neverFails_hostName names asked).bind fun name => ?_
  refine (neverFails_refused _).bind fun _ => ?_
  refine (neverFails_hostOfName names asked name).bind fun host => ?_
  exact (neverFails_refused _).bind fun _ => neverFails_ok _

theorem neverFails_seenFrom (names : HostNames) (asked next : Url) :
    NeverFails (seenFrom names asked next) := by
  unfold seenFrom
  split
  · exact neverFails_ok _
  · exact neverFails_refused _

theorem neverFails_withFragment (asked next : Url) : NeverFails (withFragment asked next) := by
  have hset : ∀ f : List Char, NeverFails (if f.isEmpty then pure next
      else (next.setFragment (Location.percentDecode f)).mapError Fault.refused) := by
    intro f
    split
    · exact neverFails_ok _
    · exact neverFails_refused _
  unfold withFragment
  split
  · exact hset _
  · exact hset _
  · exact neverFails_ok _

/-- Both names are read one after the other. -/
theorem neverFails_names (names : HostNames) (a b : Url) :
    NeverFails ([a, b].mapM (hostName names)) := by
  simp only [List.mapM_cons, List.mapM_nil]
  exact (neverFails_hostName names a).bind fun _ => NeverFails.bind
    ((neverFails_hostName names b).bind fun _ => neverFails_ok _) fun _ => neverFails_ok _

/-- **A redirect** is a request that failed only if it names no address.
Whatever else is wrong with it is told in another way. -/
theorem redirectTarget_eq_failed {names : HostNames} {asked : Url} {location message : String} :
    redirectTarget names asked location = .error (.failed message) ↔
      ∃ e, Url.parse names location.toList = .error e ∧
        message = "Invalid URL in location header: " ++ e.message ++ "." := by
  unfold redirectTarget
  rcases hparse : Url.parse names location.toList with e | next
  · constructor
    · intro h
      exact ⟨e, rfl, (Fault.failed.inj (Except.error.inj h)).symm⟩
    · rintro ⟨_, ⟨⟩, rfl⟩
      rfl
  · refine iff_of_false ?_ nofun
    refine NeverFails.bind (neverFails_onHost names asked next) (fun next => ?_) message
    refine (neverFails_seenFrom names asked next).bind fun next => ?_
    refine (neverFails_withFragment asked next).bind fun next => ?_
    refine NeverFails.bind ?_ fun _ => neverFails_ok _
    split
    · exact neverFails_names names next asked
    · exact neverFails_names names asked next

end ReleaseGate.Net
