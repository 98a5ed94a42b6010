/-
ReleaseGate/Proofs/Gate/Locations.lean

Which locations are fetched.

Whether a location has to be fetched is asked in two places: by the search
for its file, which goes over the schemes one by one, and for the artifact
that is reported, by a test of its own.  Both give the same answer for every
text.  A location that cannot be taken apart is refused by both.  Only with
the answer yes may a search change the machine, that is, send a request or
create something; and then a file that it finds is new.

Design.  `Resolves` says what a search comes to by the answer of the test, with
one constructor for each kind of scheme.  What is new is told by its place
(`NewAt`): nothing was there before, and the path led to nothing.  So a file
that was found is new if and only if it was fetched (`Resolves.newAt_iff`), and
what is done with the two files later on never takes it away.

Main result: `locations_agree`.
-/
import ReleaseGate.Proofs.Gate.FileUri
import ReleaseGate.Proofs.Gate.Footprint
import ReleaseGate.Proofs.Gate.RemoteFetch

namespace ReleaseGate

open ReleaseGate.Action
open FileTree hiding resolve

/-! ### The test by itself -/

namespace Location

variable {s : List Char} {l : Location}

theorem isRemote_iff : l.isRemote = true ↔ l.scheme ∈ ["http".toList, "https".toList] :=
  List.contains_iff_mem

/-- Without a scheme a location is not fetched. -/
theorem hasToBeFetched_eq (s : List Char) : hasToBeFetched s = (split s).map isRemote := by
  rw [hasToBeFetched]
  cases split s with
  | error e => rfl
  | ok l =>
    have hlocal : l.isLocal = true → l.isRemote = false := by
      intro hempty
      rw [isRemote, List.isEmpty_iff.1 hempty]
      decide
    show Except.ok (!l.isLocal && l.isRemote) = Except.ok l.isRemote
    cases h : l.isLocal with
    | false => rfl
    | true => rw [hlocal h]; rfl

theorem hasToBeFetched_of_split (hl : split s = .ok l) : hasToBeFetched s = .ok l.isRemote := by
  rw [hasToBeFetched_eq, hl]
  rfl

end Location

/-! ### What a search comes to -/

namespace Artifacts

variable {host : Host} {settings : Settings} {fetcher : Fetcher} {location : String}
variable {mayBeMissing : Bool} {m m' : Machine} {path found : Path} {t t' : FileTree}

/-- The path leads to a file at `f` in `t'`.  In `t` nothing is at `f`, and
the path leads to nothing. -/
structure NewAt (host : Host) (t t' : FileTree) (path : Path) (f : Place) : Prop where
  absent : ∀ node, t.lookup host.here path.text ≠ .ok node
  free : t.get? f = none
  locate : t'.locate host.here path.text true = .ok f
  file : ∃ content, t'.get? f = some (.file content)

/-- If a path is found, it is this one made whole, and it is found if and
only if a regular file is there. -/
def Finds (host : Host) (m : Machine) (path : Path) (r : Except Failure (Option Path)) : Prop :=
  ∀ found, r = .ok (some found) ↔
    found = path.seenFrom host.workingDir ∧ m.files.isFile host.here found.text = .ok true

/-- What a search for a location comes to, by whether it has to be fetched. -/
inductive Resolves (host : Host) (location : String) (m : Machine) :
    Except LocationError Bool → Except Failure (Option Path) → Machine → Prop
  | refused {e : LocationError} : Location.split location.toList = .error e →
      Resolves host location m (.error e) (.error (.location e)) m
  | bare {l : Location} {r : Except Failure (Option Path)} :
      Location.split location.toList = .ok l → l.scheme = [] →
      Finds host m (.ofString location) r → Resolves host location m (.ok false) r m
  | uri {l : Location} {r : Except Failure (Option Path)} :
      Location.split location.toList = .ok l → l.scheme = "file".toList →
      Finds host m l.filePath r → Resolves host location m (.ok false) r m
  | unsupported {l : Location} : Location.split location.toList = .ok l → l.scheme ≠ [] →
      l.scheme ≠ "file".toList → l.scheme ∉ ["http".toList, "https".toList] →
      Resolves host location m (.ok false)
        (.error (.fetch ⟨location, .unsupported (String.ofList l.scheme)⟩)) m
  | fetched {l : Location} {r : Except Failure (Option Path)} {m' : Machine} :
      Location.split location.toList = .ok l → l.scheme ∈ ["http".toList, "https".toList] →
      (∀ found, r = .ok (some found) → ∃ f, NewAt host m.files m'.files found f) →
      Resolves host location m (.ok true) r m'

theorem resolve_of_refused {e : LocationError} (hl : Location.split location.toList = .error e) :
    (resolve host settings fetcher location).on m = (.error (.location e), m) := by
  rw [resolve, hl, on_orFail_bind]

/-- A scheme that nothing is known of is refused. -/
theorem resolve_of_unsupported {l : Location} (hl : Location.split location.toList = .ok l)
    (hbare : l.scheme ≠ []) (hfile : l.scheme ≠ "file".toList) (hremote : ¬ l.isRemote) :
    (resolve host settings fetcher location).on m =
      (.error (.fetch ⟨location, .unsupported (String.ofList l.scheme)⟩), m) := by
  have hlocal : ¬ l.isLocal = true := fun h => hbare (List.isEmpty_iff.1 h)
  rw [resolve, hl, on_orFail_bind]
  show (if l.isLocal = true then _ else if l.scheme = "file".toList then _ else
    if l.isRemote = true then _ else _ : Action Path).on m = _
  rw [if_neg hlocal, if_neg hfile, if_neg hremote, on_throw]

/-- **A file that was fetched** is new: its place was free, and its path led
to nothing.  It holds the body that came from the net. -/
theorem newAt_of_stage {suffix : List Char}
    (h : (stage host settings fetcher location suffix).on m = (.ok path, m')) :
    ∃ client content f, fetcher.client settings = .ok client ∧
      Net.Sends host.library host.server client location m.requests content ∧
      NewAt host m.files m'.files path f ∧ m'.files.get? f = some (.file content) := by
  obtain ⟨staged, hstages⟩ := (stageRun_stage h).stages
  have hwhole := h
  rw [stage] at h
  obtain ⟨u, m₁, hmake, h₁⟩ := on_bind_eq_ok.1 h
  obtain ⟨temp, m₂, htemp, h₂⟩ := on_bind_eq_ok.1 h₁
  obtain ⟨client, m₃, hmade, -⟩ := on_bind_eq_ok.1 h₂
  obtain ⟨hclient, rfl⟩ := orFail_eq_ok.1 hmade
  rcases hget : Net.get host.library host.server client location m.requests with ⟨outcome, sent⟩
  obtain ⟨f, m₄, hstage, -, hfree, hbody⟩ := on_stage hclient hmake htemp hget
  obtain ⟨htold, rfl⟩ := Prod.mk.inj (hstage.symm.trans hwhole)
  cases outcome with
  | body body =>
    obtain rfl := Except.ok.inj htold
    obtain ⟨hlocate, hfile⟩ := hbody body rfl
    refine ⟨client, body, f, hclient, Net.sends_of_get hget, ?_, hfile⟩
    refine ⟨fun node hnode => ?_, hfree, hlocate, body, hfile⟩
    -- where the path led before, it leads still, but there was nothing at `f`
    obtain ⟨q, hq, hnode⟩ := lookup_eq_ok.1 hnode
    obtain rfl := Except.ok.inj (hlocate.symm.trans (locate_mono hstages.keeps hq))
    rw [hfree] at hnode
    cases hnode
  | missing | stopped => cases htold

/-- **A search** does with a location what the test says of it. -/
theorem resolves_lookFor {r : Except Failure (Option Path)}
    (h : (lookFor host settings fetcher location mayBeMissing).on m = (r, m')) :
    Resolves host location m (Location.hasToBeFetched location.toList) r m' := by
  rcases hl : Location.split location.toList with e | l
  · obtain ⟨rfl, rfl⟩ := Prod.mk.inj
      (h.symm.trans (lookFor_of_not_missing (resolve_of_refused hl) nofun))
    rw [Location.hasToBeFetched_eq, hl]
    exact .refused hl
  rw [Location.hasToBeFetched_of_split hl]
  by_cases hbare : l.scheme = []
  · have hpath : localPath? location l = some (.ofString location) := by
      rw [localPath?, Location.isLocal, hbare]
      rfl
    have hremote : l.isRemote = false := by
      rw [Location.isRemote, hbare]
      decide
    obtain ⟨rfl, hfinds⟩ := found_iff_of_localPath hl hpath h
    rw [hremote]
    exact .bare hl hbare hfinds
  by_cases hfile : l.scheme = "file".toList
  · have hremote : l.isRemote = false := by
      rw [Location.isRemote, hfile]
      decide
    obtain ⟨rfl, hfinds⟩ := file_found_iff hl hfile h
    rw [hremote]
    exact .uri hl hfile hfinds
  by_cases hremote : l.isRemote = true
  · rw [hremote]
    refine .fetched hl (Location.isRemote_iff.1 hremote) ?_
    rintro found rfl
    rw [lookFor_eq_some, resolve_of_remote hl hremote] at h
    obtain ⟨-, -, f, -, -, hnew, -⟩ := newAt_of_stage h
    exact ⟨f, hnew⟩
  · -- a scheme that is refused is not a missing artifact
    have hthere : ∀ f, (Except.error (.fetch ⟨location, .unsupported (String.ofList l.scheme)⟩) :
        Except Failure Path) = .error (.fetch f) → ¬ f.isMissing := by
      rintro _ ⟨⟩ hmissing
      cases hmissing
    obtain ⟨rfl, rfl⟩ := Prod.mk.inj
      (h.symm.trans (lookFor_of_not_missing (resolve_of_unsupported hl hbare hfile hremote) hthere))
    rw [Bool.eq_false_iff.2 hremote]
    exact .unsupported hl hbare hfile (mt Location.isRemote_iff.2 hremote)

/-- A file that was there is not new. -/
theorem not_newAt_of_isFile {f : Place} (h : t.isFile host.here path.text = .ok true) :
    ¬ NewAt host t t' path f := by
  intro hnew
  obtain ⟨content, hread⟩ := isFile_eq_true.1 h
  exact hnew.absent _ (lookup_eq_ok.2 (read_eq_ok.1 hread))

/-- What is found is new if and only if it had to be fetched. -/
theorem Resolves.newAt_iff {answer : Except LocationError Bool}
    (h : Resolves host location m answer (.ok (some found)) m') :
    ∃ fetched, answer = .ok fetched ∧
      (fetched = true ↔ ∃ f, NewAt host m.files m'.files found f) := by
  have hthere : ∀ {path}, Finds host m path (.ok (some found)) →
      (false = true ↔ ∃ f, NewAt host m.files m.files found f) := by
    intro path hfinds
    refine ⟨nofun, ?_⟩
    rintro ⟨f, hnew⟩
    exact absurd hnew (not_newAt_of_isFile ((hfinds found).1 rfl).2)
  cases h with
  | bare _ _ hfinds => exact ⟨false, rfl, hthere hfinds⟩
  | uri _ _ hfinds => exact ⟨false, rfl, hthere hfinds⟩
  | fetched _ _ hnew => exact ⟨true, rfl, fun _ => hnew found rfl, fun _ => rfl⟩

end Artifacts

/-! ### The artifact that is reported -/

namespace Gate

open Artifacts

variable {host : Host} {setup : Setup} {candidate : Candidate} {comparison : Comparison}
variable {m m' m₁ : Machine} {newFile oldFile : Path} {files : List Path} {t t' : FileTree}
variable {q : Place}

/-- What is reported of the old artifact is the answer of the test. -/
theorem fetched_oldArtifact {fetched : Bool}
    (h : Location.hasToBeFetched candidate.oldLocation.toList = .ok fetched) :
    (oldArtifact candidate oldFile).fetched = fetched := by
  show (Location.split candidate.oldLocation.toList).toOption.any Location.isRemote = fetched
  rw [Location.hasToBeFetched_eq] at h
  rcases hl : Location.split candidate.oldLocation.toList with e | l
  · rw [hl] at h
    cases h
  · rw [hl] at h
    exact Except.ok.inj h

/-- The old artifact is new if and only if it is reported as fetched; and it
is still there in `t`, where all files are that were there when it was found. -/
theorem fetched_iff_of_findFiles (hsound : host.Sound)
    (h : (findFiles host setup candidate).on m = (.ok (newFile, some oldFile), m₁))
    (hstays : ∀ q content, m₁.files.get? q = some (.file content) →
      ∃ content, t.get? q = some (.file content)) :
    Location.hasToBeFetched candidate.oldLocation.toList =
        .ok (oldArtifact candidate oldFile).fetched ∧
      ((oldArtifact candidate oldFile).fetched = true ↔
        ∃ f, NewAt host m.files m₁.files oldFile f ∧
          ∃ content, t.get? f = some (.file content)) := by
  obtain ⟨r, hnew, -⟩ := on_findNew setup candidate hsound m
  rw [findFiles] at h
  obtain ⟨new, m₀, hnew', h₁⟩ := on_bind_eq_ok.1 h
  obtain ⟨-, rfl⟩ := Prod.mk.inj (hnew.symm.trans hnew')
  obtain ⟨old?, m₂, hold, hpure⟩ := on_bind_eq_ok.1 h₁
  obtain ⟨hpair, rfl⟩ := Prod.mk.inj hpure
  obtain ⟨-, rfl⟩ := Prod.mk.inj (Except.ok.inj hpair)
  change (lookFor host setup.settings setup.fetcher candidate.oldLocation
    candidate.mayBeFirst).on m = _ at hold
  obtain ⟨fetched, hanswer, hiff⟩ := (resolves_lookFor hold).newAt_iff
  rw [fetched_oldArtifact hanswer]
  refine ⟨hanswer, hiff.trans ⟨?_, ?_⟩⟩
  · rintro ⟨f, hnew⟩
    obtain ⟨content, hfile⟩ := hnew.file
    exact ⟨f, hnew, hstays f content hfile⟩
  · rintro ⟨f, hnew, -⟩
    exact ⟨f, hnew⟩

/-- Where a file is, inner archives leave a file. -/
theorem Inner.file {content : ByteArray} (h : Inner host files t t')
    (hq : t.get? q = some (.file content)) : ∃ content, t'.get? q = some (.file content) := by
  by_cases hsame : t'.get? q = t.get? q
  · exact ⟨content, hsame.trans hq⟩
  · exact (h.off q hsame).2

/-- **The two tests agree.**  A search fetches, and changes the machine at
all, only where the test says so, and what it finds otherwise is the file
that the location names.  So the old artifact of a comparison is reported as
fetched if and only if its file is new, and it is still there at the end. -/
theorem locations_agree (host : Host) :
    (∀ settings fetcher location mayBeMissing m r m',
      (lookFor host settings fetcher location mayBeMissing).on m = (r, m') →
      Resolves host location m (Location.hasToBeFetched location.toList) r m') ∧
    ∀ setup candidate m comparison m',
      host.Sound → Grounded m.files → m.files.get? host.here = some .dir →
      (compare host setup candidate).on m = (.ok comparison, m') →
      comparison.skipped ≠ some .missingOld →
      ∃ newFile oldFile m₁,
        (findFiles host setup candidate).on m = (.ok (newFile, some oldFile), m₁) ∧
        comparison.old.path = some oldFile ∧
        Location.hasToBeFetched candidate.oldLocation.toList = .ok comparison.old.fetched ∧
        (comparison.old.fetched = true ↔ ∃ f, NewAt host m.files m₁.files oldFile f ∧
          ∃ content, m'.files.get? f = some (.file content)) := by
  refine ⟨fun _ _ _ _ _ _ _ h => resolves_lookFor h, ?_⟩
  intro setup candidate m comparison m' hsound hground hhere h hfound
  cases compare_eq_ok_iff.1 h with
  | missing => exact absurd rfl hfound
  | identical hfind =>
    exact ⟨_, _, _, hfind, rfl, fetched_iff_of_findFiles hsound hfind fun _ content hq =>
      ⟨content, hq⟩⟩
  | different hreaches hcall =>
    obtain ⟨-, hinner⟩ := inner_of_found hsound hground hhere hreaches.find hreaches.ready
    refine ⟨_, _, _, hreaches.find, rfl, fetched_iff_of_findFiles hsound hreaches.find ?_⟩
    -- only inner archives are put after that, and they are files
    intro q content hq
    rw [get?_of_callEngine hinner.grounded hcall q]
    exact hinner.file hq

/-- A build of two bytes. -/
def built : Machine where
  files := ⟨[(["lib.jar"], .file ⟨#[79, 75]⟩)]⟩

/-- A release that a server has is new on the machine, and a location that is
refused changes nothing there. -/
theorem locations_agree_fetched :
    ((lookFor having (fetchingAs "bumpgate") .standard "ftp://h/old.jar" true).on built).2 =
        built ∧
    ∃ comparison m', (compare having { settings := fetchingAs "bumpgate" }
        (buildAfter "http://h/old.jar")).on built = (.ok comparison, m') ∧
      comparison.old.fetched = true ∧
      ∃ f content, built.files.get? f = none ∧ m'.files.get? f = some (.file content) := by
  obtain ⟨hsearch, hcompare⟩ := locations_agree having
  constructor
  · rcases hrun : (lookFor having (fetchingAs "bumpgate") .standard "ftp://h/old.jar" true).on
      built with ⟨r, m'⟩
    have hresolves := hsearch _ _ _ _ _ _ _ hrun
    have hanswer : Location.hasToBeFetched "ftp://h/old.jar".toList = .ok false :=
      eq_ok_of_toOption (by decide +kernel)
    rw [hanswer] at hresolves
    cases hresolves <;> rfl
  · have hrun : ((compare having { settings := fetchingAs "bumpgate" }
        (buildAfter "http://h/old.jar")).on built).1.toOption.map
          (fun comparison => (comparison.skipped, comparison.old.fetched)) =
        some (some .identicalContent, true) := by decide +kernel
    obtain ⟨comparison, hresult, hparts⟩ := Option.map_eq_some_iff.1 hrun
    obtain ⟨hskipped, hfetched⟩ := Prod.mk.inj hparts
    have h := on_of_toOption hresult
    have hfound : comparison.skipped ≠ some .missingOld := by
      rw [hskipped]
      decide
    obtain ⟨newFile, oldFile, m₁, -, -, -, hnew⟩ := hcompare _ _ built _ _ ⟨by decide, by decide⟩
      (grounded_of_nodes (by simp [built])) rfl h hfound
    obtain ⟨f, hat, content, hfile⟩ := hnew.1 hfetched
    exact ⟨comparison, _, h, hfetched, f, content, hat.free, hfile⟩

end Gate

end ReleaseGate
