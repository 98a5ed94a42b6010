/-
ReleaseGate/Proofs/Gate/RemoteFetch.lean

What comes of fetching a file.

A location that has to be fetched is asked for once, along one chain of
requests, and the ending of the chain decides.  A last response with status
404 or 410 means that nothing is there; one that says that all went well, and
whose body arrived whole, becomes a new file; whatever else happens is a
failed fetch.  There is one exception.  The library counts not all that can
stop it as failed requests: a redirect to an address that no request can be
sent to is told as a refused address, and an error that it has no kind for is
passed on as it is.

Design.  The outcome of the client is carried through the steps that put it
into a file (`on_fill`, `on_stage`), and then read as the ending of a chain
(`RemoteAnswer`), which has one constructor for each kind of answer.  Nothing
is asked of the library but that it accepts the location.

Main result: `exists_chain_remoteAnswer`.
-/
import ReleaseGate.Proofs.Gate.FailedFetch

namespace ReleaseGate

namespace Artifacts

open FileTree ReleaseGate.Action

variable {host : Host} {settings : Settings} {fetcher : Fetcher} {location : String}
variable {client : Net.Client} {outcome : Net.Outcome} {sent : List Net.Request}
variable {m m' m₁ m₂ : Machine} {temp : Path} {f : Place} {mayBeMissing : Bool}

/-! ### From the outcome to a file -/

/-- The answer of a fetch into the file `temp`, by its outcome. -/
def fetchAnswer (location : String) (temp : Path) : Net.Outcome → Except Failure Path
  | .missing status => .error (.fetch ⟨location, .gone status⟩)
  | .stopped fault => .error (fetchFailure location fault)
  | .body _ => .ok temp

/-- A failed download takes the file away again. -/
theorem on_fill_of_error {e : Failure} {content : ByteArray}
    (hl : m.files.locate host.here temp.text false = .ok f)
    (hfile : m.files.get? f = some (.file content))
    (h : (download host client location temp).on m = (.error e, { m with requests := sent })) :
    ∃ m', (orElseDo (download host client location temp) (unlink host temp.text)).on m =
      (.error e, m') ∧ m'.requests = sent := by
  have hunlink := unlink_of_locate (m := { m with requests := sent }) hl hfile
  exact ⟨_, on_orElseDo_of_error h hunlink, rfl⟩

/-- The empty file is filled with what is got, or the failure is told. -/
theorem on_fill {content : ByteArray} (hl : m.files.locate host.here temp.text true = .ok f)
    (hl' : m.files.locate host.here temp.text false = .ok f)
    (hfile : m.files.get? f = some (.file content))
    (hget : Net.get host.library host.server client location m.requests = (outcome, sent)) :
    ∃ m', (do
        orElseDo (download host client location temp) (unlink host temp.text)
        return temp).on m = (fetchAnswer location temp outcome, m') ∧ m'.requests = sent ∧
      ∀ body, outcome = .body body →
        m'.files.locate host.here temp.text true = .ok f ∧
          m'.files.get? f = some (.file body) := by
  have hfetch : (Action.fetch host client location).on m =
      (.ok outcome, { m with requests := sent }) := by
    rw [on_fetch, hget]
  have hdown : (download host client location temp).on m = _ := on_bind_of_ok hfetch
  cases outcome with
  | body body =>
    have hwrite := write_of_locate body hl (by simp [hfile])
    have hedit : m.files.Edit f (some (.file body)) (m.files.put f (.file body)) :=
      edit_put (ne_root_of_not_dir (t := m.files) (by simp [hfile]))
    have hstore : (store host temp.text body).on { m with requests := sent } =
        (.ok (), { m with requests := sent, files := m.files.put f (.file body) }) :=
      changeFiles_eq_ok.2 ⟨_, hwrite, rfl⟩
    refine ⟨_, on_bind_of_ok (on_orElseDo_of_ok (hdown.trans hstore)), rfl, ?_⟩
    rintro _ ⟨⟩
    have hways := hedit.keepsWays_of_file hfile (by simp)
    exact ⟨locate_mono hways hl, hedit.new⟩
  | missing | stopped =>
    obtain ⟨m', hfill, hsent⟩ := on_fill_of_error hl' hfile hdown
    exact ⟨m', on_bind_of_error hfill, hsent, nofun⟩

/-- What is said of a fetch is said of its outcome; where it was put was free
before. -/
theorem on_stage {suffix : List Char} (hclient : fetcher.client settings = .ok client)
    (hmake : (makeStagingDir host settings).on m = (.ok (), m₁))
    (htemp : (newTempFile host (settings.stagingDir.getD host.tempDir) stagedStart suffix).on m₁ =
      (.ok temp, m₂))
    (hget : Net.get host.library host.server client location m.requests = (outcome, sent)) :
    ∃ f m', (stage host settings fetcher location suffix).on m =
        (fetchAnswer location temp outcome, m') ∧
      m'.requests = sent ∧ m.files.get? f = none ∧
      ∀ body, outcome = .body body →
        m'.files.locate host.here temp.text true = .ok f ∧
          m'.files.get? f = some (.file body) := by
  obtain ⟨made, t, hdirs, hstages, -⟩ := on_makeStagingDir host settings m
  obtain ⟨rfl, rfl⟩ := Prod.mk.inj (hdirs.symm.trans hmake)
  obtain ⟨-, hadd, htrace⟩ := createFresh_eq_ok htemp
  obtain ⟨f, hl, hnone, hedit⟩ := add_eq_ok hadd
  have hlnew := fun fl => hedit.locate_new hl hnone fl
  have hget₂ : Net.get host.library host.server client location m₂.requests =
      (outcome, sent) := by
    rw [htrace.requests]
    exact hget
  obtain ⟨m', hfill, hsent, hbody⟩ := on_fill (hlnew true) (hlnew false) hedit.new hget₂
  refine ⟨f, m', ?_, hsent, ?_, hbody⟩
  · rw [stage, on_bind_of_ok hmake, on_bind_of_ok htemp,
      on_bind_of_ok (orFail_eq_ok.2 ⟨hclient, rfl⟩)]
    exact hfill
  · by_contra hsome
    have hkept := hstages.get?_eq hsome
    exact hsome (hkept.symm.trans hnone)

/-- The answer of a search by an outcome, where nothing may be there. -/
def searchAnswer (location : String) (temp : Path) (mayBeMissing : Bool) :
    Net.Outcome → Except Failure (Option Path)
  | .missing status =>
    if mayBeMissing then .ok none else .error (.fetch ⟨location, .gone status⟩)
  | outcome => (fetchAnswer location temp outcome).map some

theorem lookFor_of_fetchAnswer {r : Except Failure (Option Path)}
    (hresolve : (resolve host settings fetcher location).on m =
      (fetchAnswer location temp outcome, m₁))
    (h : (lookFor host settings fetcher location mayBeMissing).on m = (r, m')) :
    r = searchAnswer location temp mayBeMissing outcome ∧ m' = m₁ := by
  cases outcome with
  | missing status => exact Prod.mk.inj (h.symm.trans (lookFor_of_missing hresolve rfl))
  | stopped fault =>
    have hthere : ∀ f, fetchAnswer location temp (.stopped fault) = .error (.fetch f) →
        ¬ f.isMissing := fun f hf => not_isMissing_of_fetchFailure (Except.error.inj hf)
    exact Prod.mk.inj (h.symm.trans (lookFor_of_not_missing hresolve hthere))
  | body content => exact Prod.mk.inj (h.symm.trans (lookFor_of_not_missing hresolve nofun))

/-! ### From the ending to the answer -/

/-- The answer of a search over the net, by how its chain of requests ends. -/
inductive RemoteAnswer (host : Host) (location : String) (mayBeMissing : Bool) (m m' : Machine) :
    Net.Ending → Except Failure (Option Path) → Prop
  | forgiven {r url} : r.status = 404 ∨ r.status = 410 → mayBeMissing = true →
      RemoteAnswer host location mayBeMissing m m' (.final r url) (.ok none)
  | missing {r url} : r.status = 404 ∨ r.status = 410 → mayBeMissing = false →
      RemoteAnswer host location mayBeMissing m m' (.final r url)
        (.error (.fetch ⟨location, .gone r.status⟩))
  | fetched {r url content path f} : Net.isSuccess r.status → r.Holds host.library content →
      path.isAbsolute → m.files.get? f = none →
      m'.files.locate host.here path.text true = .ok f →
      m'.files.get? f = some (.file content) →
      RemoteAnswer host location mayBeMissing m m' (.final r url) (.ok (some path))
  | unread {r url message} : Net.isSuccess r.status → r.read host.library = .error message →
      RemoteAnswer host location mayBeMissing m m' (.final r url)
        (.error (.fetch ⟨location, .failed message⟩))
  | status {r url} : ¬ (r.status = 404 ∨ r.status = 410) → Net.isSuccess r.status = false →
      RemoteAnswer host location mayBeMissing m m' (.final r url)
        (.error (.fetch ⟨location, .failed (host.library.complaint r url)⟩))
  | failed {message} : RemoteAnswer host location mayBeMissing m m' (.stopped (.failed message))
      (.error (.fetch ⟨location, .failed message⟩))
  | refused {e} : RemoteAnswer host location mayBeMissing m m' (.stopped (.refused e))
      (.error (.address e))
  | foreign {e} : RemoteAnswer host location mayBeMissing m m' (.stopped (.foreign e))
      (.error (.ofLibrary e))

theorem resolve_of_remote {l : Location} (hl : Location.split location.toList = .ok l)
    (hremote : l.isRemote) :
    (resolve host settings fetcher location).on m =
      (stage host settings fetcher location l.suffix).on m := by
  have hscheme : l.scheme = "http".toList ∨ l.scheme = "https".toList := by
    simpa [Location.isRemote, Location.remoteSchemes] using hremote
  have hlocal : ¬ l.isLocal = true := by
    rw [Location.isLocal]
    rcases hscheme with h | h <;> rw [h] <;> decide
  have hfile : l.scheme ≠ "file".toList := by
    rcases hscheme with h | h <;> rw [h] <;> decide
  rw [resolve, hl, on_orFail_bind]
  show (if l.isLocal = true then _ else if l.scheme = "file".toList then _ else
    if l.isRemote = true then _ else _ : Action Path).on m = _
  rw [if_neg hlocal, if_neg hfile, if_pos hremote]

theorem isAbsolute_newTempFile {dir : Path} {suffix : List Char} (habs : host.workingDir.isAbsolute)
    (h : (newTempFile host dir stagedStart suffix).on m = (.ok temp, m')) : temp.isAbsolute := by
  obtain ⟨⟨number, rfl⟩, -, -⟩ := createFresh_eq_ok h
  exact Path.isAbsolute_seenFrom dir habs

/-- **A file from the net** is asked for along one chain of requests, and the
ending of the chain decides what comes of it: nothing is there, or a new file
holds the whole body, or the fetch failed.  Only what the library does not
count as a failed request is told as something else. -/
theorem exists_chain_remoteAnswer {l : Location} {url : Net.Url}
    {r : Except Failure (Option Path)}
    (habs : host.workingDir.isAbsolute) (hl : Location.split location.toList = .ok l)
    (hremote : l.isRemote) (hurl : host.library.first client location = .ok url)
    (hclient : fetcher.client settings = .ok client)
    (hmake : (makeStagingDir host settings).on m = (.ok (), m₁))
    (htemp : (newTempFile host (settings.stagingDir.getD host.tempDir) stagedStart l.suffix).on
      m₁ = (.ok temp, m₂))
    (h : (lookFor host settings fetcher location mayBeMissing).on m = (r, m')) :
    ∃ asked ending,
      Net.Chain host.library host.server client (host.library.reach client) url m.requests
        asked ending ∧
      asked.length ≤ host.library.reach client ∧ m'.requests = m.requests ++ asked ∧
      RemoteAnswer host location mayBeMissing m m' ending r := by
  obtain ⟨asked, ending, hchain⟩ := Net.exists_chain host.library host.server client
    (host.library.reach client) url m.requests
  have hget : Net.get host.library host.server client location m.requests =
      (ending.outcome host.library, m.requests ++ asked) := by
    rw [Net.get, hurl]
    exact hchain.follow_eq
  obtain ⟨f, m₃, hstage, hsent, hfree, hbody⟩ := on_stage hclient hmake htemp hget
  have hresolve : (resolve host settings fetcher location).on m =
      (fetchAnswer location temp (ending.outcome host.library), m₃) :=
    (resolve_of_remote hl hremote).trans hstage
  obtain ⟨rfl, rfl⟩ := lookFor_of_fetchAnswer hresolve h
  refine ⟨asked, ending, hchain, hchain.length_le, hsent, ?_⟩
  cases ending with
  | stopped fault =>
    cases fault with
    | failed message => exact .failed
    | refused e => exact .refused
    | foreign e => exact .foreign
  | final response last =>
    rw [Net.Ending.outcome] at hbody ⊢
    rcases response.outcome_cases host.library last with ⟨hmissing, ho⟩ |
        ⟨content, hsuccess, hholds, ho⟩ | ⟨message, hsuccess, hread, ho⟩ | ⟨hmissing, hsuccess, ho⟩
    · rw [ho]
      cases mayBeMissing with
      | false => exact .missing hmissing rfl
      | true => exact .forgiven hmissing rfl
    · obtain ⟨hlocate, hfile⟩ := hbody content ho
      rw [ho]
      exact .fetched hsuccess hholds (isAbsolute_newTempFile habs htemp) hfree hlocate hfile
    · rw [ho]
      exact .unread hsuccess hread
    · rw [ho]
      exact .status hmissing hsuccess

/-- The usual host, where a server replies to each request with `r`. -/
def replying (r : Net.Response) : Host := { Host.bare with server := fun _ _ => .response r }

/-- A server that has the file. -/
def having : Host := replying { status := 200, body := ⟨#[79, 75]⟩ }

/-- A file that a server has becomes a new file with its content. -/
theorem exists_chain_remoteAnswer_body :
    ∃ m' f, (lookFor having (fetchingAs "bumpgate") .standard "http://h/old.jar" false).on {} =
        (.ok (some (.ofString "/s/bumpgate-00000001.jar")), m') ∧
      ({} : FileTree).get? f = none ∧ m'.files.get? f = some (.file ⟨#[79, 75]⟩) := by
  have hl : Location.split "http://h/old.jar".toList =
      .ok ⟨"http".toList, "h".toList, "/old.jar".toList⟩ := eq_ok_of_toOption (by decide +kernel)
  have hurl := eq_ok_of_toOption (show (having.library.first (.standard "bumpgate" none)
    "http://h/old.jar").toOption = some
      { scheme := "http".toList, host := "h".toList, path := "/old.jar".toList } by decide +kernel)
  have hmake := on_of_toOption (show ((makeStagingDir having (fetchingAs "bumpgate")).on
    {}).1.toOption = some () by decide +kernel)
  have htemp := on_of_toOption (show ((newTempFile having (.ofString "s") stagedStart
    ".jar".toList).on ((makeStagingDir having (fetchingAs "bumpgate")).on {}).2).1.toOption =
      some (.ofString "/s/bumpgate-00000001.jar") by decide +kernel)
  have hrun := on_of_toOption (show ((lookFor having (fetchingAs "bumpgate") .standard
    "http://h/old.jar" false).on {}).1.toOption =
      some (some (.ofString "/s/bumpgate-00000001.jar")) by decide +kernel)
  obtain ⟨asked, ending, hchain, -, -, hcomes⟩ :=
    exists_chain_remoteAnswer (by decide) hl (by decide) hurl rfl hmake htemp hrun
  cases hcomes with
  | fetched hsuccess hholds habs hfree hlocate hfile =>
    obtain ⟨earlier, -, hreply⟩ := hchain.last_request
    obtain rfl := Net.Reply.response.inj hreply
    rw [hholds.eq_body rfl] at hfile
    exact ⟨_, _, hrun, hfree, hfile⟩

/-- A server that sends the client to an address without a slash behind its
scheme. -/
def misleading : Host := replying { status := 302, headers := [("Location", "http:foo")] }

/-- What is wrong with an address, if that is why there is no result. -/
def addressError? {α : Type} : Except Failure α → Option Net.UrlError
  | .error (.address e) => some e
  | _ => none

/-- A redirect that leads nowhere is not told as a fetch that failed. -/
theorem lookFor_astray :
    (∃ url, misleading.library.first (.standard "bumpgate" none) "http://h/old.jar" = .ok url) ∧
    ∃ e m', (lookFor misleading (fetchingAs "bumpgate") .standard "http://h/old.jar" false).on {} =
      (.error (.address e), m') := by
  have hurl := eq_ok_of_toOption (show (misleading.library.first (.standard "bumpgate" none)
    "http://h/old.jar").toOption = some
      { scheme := "http".toList, host := "h".toList, path := "/old.jar".toList } by decide +kernel)
  refine ⟨⟨_, hurl⟩, ?_⟩
  have hkind : addressError? ((lookFor misleading (fetchingAs "bumpgate") .standard
      "http://h/old.jar" false).on {}).1 = some .detachedPath := by decide +kernel
  rcases hrun : (lookFor misleading (fetchingAs "bumpgate") .standard "http://h/old.jar" false).on
    {} with ⟨e | found, m'⟩
  · rw [hrun] at hkind
    cases e with
    | address e => exact ⟨e, m', rfl⟩
    | _ => cases hkind
  · rw [hrun] at hkind
    cases hkind

end Artifacts

end ReleaseGate
