/-
ReleaseGate/Proofs/Gate/FailedFetch.lean

What is left of a file that could not be fetched.

The new file is there before anything is sent, so a step that fails has to
take it away again.  All steps do that but one: the client is made when the
file is there already, and a name for the client that is not ASCII stops the
run at once.  Then the file stays, and is empty.  In any other case all that
is new are directories, those on the way to where fetched files are put.

Design.  What a failure leaves goes with its cause (`Leaves`), from fetching
(`stageRun_stage`) to getting a local file (`resolveRun_resolve`).  Here it
is read as a statement about the files, before and after.

Main results: `no_file_left_iff`, `file_left_of_agent`.
-/
import ReleaseGate.Proofs.Gate.Artifacts

namespace ReleaseGate.Artifacts

open FileTree ReleaseGate.Action

variable {host : Host} {settings : Settings} {fetcher : Fetcher} {location : String}
variable {m m' : Machine} {t t' : FileTree} {e : Failure}

/-- All that is new are directories on the way to where fetched files are
put. -/
def AddsOnlyDirs (host : Host) (settings : Settings) (t t' : FileTree) : Prop :=
  ∀ q, t'.get? q ≠ t.get? q → ∃ dir, settings.stagingDir = some dir ∧ NewDir t t' host.here dir q

/-- There is one new file, in the place of a fetched one, and it is empty. -/
def AddsEmptyFile (host : Host) (settings : Settings) (t t' : FileTree) : Prop :=
  ∃ f, t.get? f = none ∧ t'.get? f = some (.file .empty) ∧
    (∃ suffix number,
      t'.locate host.here (stagedPath host settings suffix number).text false = .ok f) ∧
    ∀ q, q ≠ f → t'.get? q ≠ t.get? q →
      ∃ dir, settings.stagingDir = some dir ∧ NewDir t t' host.here dir q

/-- Every file was there before, with the same content. -/
def AddsNoFile (t t' : FileTree) : Prop :=
  ∀ q content, t'.get? q = some (.file content) → t.get? q = some (.file content)

theorem AddsOnlyDirs.addsNoFile (h : AddsOnlyDirs host settings t t') : AddsNoFile t t' := by
  intro q content hq
  by_contra hne
  obtain ⟨dir, -, -, hnew, -⟩ := h q fun hsame => hne (hsame ▸ hq)
  rw [hq] at hnew
  cases hnew

theorem AddsEmptyFile.not_addsNoFile (h : AddsEmptyFile host settings t t') :
    ¬ AddsNoFile t t' := by
  obtain ⟨f, hnone, hempty, -⟩ := h
  intro hno
  rw [hno f _ hempty] at hnone
  cases hnone

theorem Stages.addsOnlyDirs (h : Stages host settings none t t') :
    AddsOnlyDirs host settings t t' := fun q hq => h.off q nofun hq

theorem Stages.addsEmptyFile {f : Place} (h : Stages host settings (some f) t t')
    (hf : t'.get? f = some (.file .empty)) : AddsEmptyFile host settings t t' := by
  obtain ⟨hnone, -, hplace⟩ := h.file f rfl
  exact ⟨f, hnone, hf, hplace, fun q hqf hq => h.off q (by simpa using hqf.symm) hq⟩

/-! ### A search that comes to nothing -/

/-- What is left of a search that comes to nothing: directories, or else an
empty file if no client can be made. -/
theorem lookFor_leaves {mayBeMissing : Bool} {r : Except Failure (Option Path)}
    (h : (lookFor host settings fetcher location mayBeMissing).on m = (r, m'))
    (hnothing : ∀ path, r ≠ .ok (some path)) :
    (∃ staged, Stages host settings staged m.files m'.files) ∧
      ((∀ fault, r ≠ .error (.notAscii fault)) ∧ AddsOnlyDirs host settings m.files m'.files ∨
        ∃ fault, r = .error (.notAscii fault) ∧ fetcher.client settings = .error fault ∧
          AddsEmptyFile host settings m.files m'.files) := by
  obtain ⟨found, hresolve, hr⟩ := lookFor_cases h
  have hrun := resolveRun_resolve hresolve
  refine ⟨hrun.stages, ?_⟩
  rcases found with e | path
  · -- the error is told as it is, unless the search may come to nothing
    rcases hr with rfl | ⟨-, rfl, f, hf, -⟩
    · rcases hrun.failed e rfl with ⟨hagent, hstages⟩ | ⟨hclient, hstages, hempty⟩
      · refine .inl ⟨fun fault he => ?_, hstages.addsOnlyDirs⟩
        exact hagent fault (Except.error.inj he)
      · exact .inr ⟨_, rfl, hclient, hstages.addsEmptyFile hempty⟩
    · -- what is missing is no matter of the client
      obtain rfl := Except.error.inj hf
      rcases hrun.failed _ rfl with ⟨-, hstages⟩
      exact .inl ⟨nofun, hstages.addsOnlyDirs⟩
  · rcases hr with rfl | ⟨-, -, f, ⟨⟩, -⟩
    exact absurd rfl (hnothing path)

/-- **A file that could not be had** leaves no file behind, unless it is for
the lack of a client: then an empty file stays where fetched files are put.
In any case all that was there stays as it was, and can be read as before. -/
theorem no_file_left_iff {mayBeMissing : Bool} {r : Except Failure (Option Path)}
    (h : (lookFor host settings fetcher location mayBeMissing).on m = (r, m'))
    (hnothing : ∀ path, r ≠ .ok (some path)) :
    (∀ q, m.files.get? q ≠ none → m'.files.get? q = m.files.get? q) ∧
    (∀ text content, m.files.read host.here text = .ok content →
      m'.files.read host.here text = .ok content) ∧
    (AddsNoFile m.files m'.files ↔ ∀ fault, r ≠ .error (.notAscii fault)) ∧
    (AddsNoFile m.files m'.files → AddsOnlyDirs host settings m.files m'.files) ∧
    ∀ fault, r = .error (.notAscii fault) →
      fetcher.client settings = .error fault ∧ AddsEmptyFile host settings m.files m'.files := by
  obtain ⟨⟨staged, hstages⟩, hleft⟩ := lookFor_leaves h hnothing
  refine ⟨fun q hq => hstages.get?_eq hq, fun text content hr => hstages.read hr, ?_⟩
  rcases hleft with ⟨hagent, hdirs⟩ | ⟨fault, rfl, hclient, hempty⟩
  · exact ⟨iff_of_true hdirs.addsNoFile hagent, fun _ => hdirs, fun fault hr =>
      absurd hr (hagent fault)⟩
  · refine ⟨iff_of_false hempty.not_addsNoFile fun hagent => hagent fault rfl, fun hno =>
      absurd hno hempty.not_addsNoFile, ?_⟩
    rintro _ ⟨⟩
    exact ⟨hclient, hempty⟩

/-! ### A server that has nothing -/

/-- The usual host, where a server has nothing at any address. -/
def nothingServed : Host := { Host.bare with server := fun _ _ => .response { status := 404 } }

/-- Fetched files are put in `s`, by a client of a given name. -/
def fetchingAs (userAgent : String) : Settings where
  userAgent
  stagingDir := some (.ofString "s")

/-- What a server does not have leaves a directory and no file. -/
theorem no_file_left_missing :
    ∃ m', (lookFor nothingServed (fetchingAs "bumpgate") .standard "http://h/old.jar" true).on {} =
        (.ok none, m') ∧
      m'.files.get? ["s"] = some .dir ∧ AddsNoFile {} m'.files ∧
      AddsOnlyDirs nothingServed (fetchingAs "bumpgate") {} m'.files := by
  have h := on_of_toOption (show ((lookFor nothingServed (fetchingAs "bumpgate") .standard
    "http://h/old.jar" true).on {}).1.toOption = some none by decide +kernel)
  obtain ⟨-, -, hno, hdirs, -⟩ := no_file_left_iff h nofun
  exact ⟨_, h, by decide +kernel, hno.2 nofun, hdirs (hno.2 nofun)⟩

/-- Without a client the new file stays. -/
theorem file_left_of_agent :
    ∃ e m', (lookFor nothingServed (fetchingAs "bümp") .standard "http://h/old.jar" false).on {} =
        (.error e, m') ∧
      ({} : FileTree).get? ["bumpgate-00000001.jar", "s"] = none ∧
      m'.files.get? ["bumpgate-00000001.jar", "s"] = some (.file .empty) := by
  have hfails : ((lookFor nothingServed (fetchingAs "bümp") .standard "http://h/old.jar"
    false).on {}).1.toOption = none := by decide +kernel
  have hleft : ((lookFor nothingServed (fetchingAs "bümp") .standard "http://h/old.jar"
    false).on {}).2.files.get? ["bumpgate-00000001.jar", "s"] = some (.file .empty) := by
    decide +kernel
  rcases hrun : (lookFor nothingServed (fetchingAs "bümp") .standard "http://h/old.jar"
    false).on {} with ⟨e | found, m'⟩
  · rw [hrun] at hleft
    exact ⟨e, m', rfl, rfl, hleft⟩
  · rw [hrun] at hfails
    cases hfails

end ReleaseGate.Artifacts
