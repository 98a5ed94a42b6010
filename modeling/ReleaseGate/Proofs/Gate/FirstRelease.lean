/-
ReleaseGate/Proofs/Gate/FirstRelease.lean

The licence to be the first release, and what it forgives.

A candidate is run twice on one machine: as a later release
(`Candidate.asLater`), which has to follow something, and as one that may be
the first (`Candidate.asFirst`).  The two runs part at one point only: the new
artifact was found, and then there is nothing at the old location
(`MissesOld`).  There the later release fails.  The first one goes on at
once: it sends nothing more, has no use for an engine, and passes as a
release that is compared with itself, if its reports can be written
(`Forgiven`).

Design.  The licence is read in one place, where the old artifact is looked
for.  So two runs are compared by comparing two searches (`run_congr`), and
anything that can go wrong before the search, after it, or in it for another
reason goes wrong in both of them.

Main result: `licence_forgives`.
-/
import ReleaseGate.Proofs.Gate.Outcome

namespace ReleaseGate

/-- The candidate as a release that has to follow another one. -/
def Candidate.asLater (candidate : Candidate) : Candidate :=
  { candidate with mayBeFirst := false }

/-- The candidate as one that may be the first. -/
def Candidate.asFirst (candidate : Candidate) : Candidate :=
  { candidate with mayBeFirst := true }

/-- The code of a missing artifact is for missing artifacts only. -/
theorem FetchError.code_eq_artifactMissing (f : FetchError) :
    f.code = .artifactMissing ↔ f.isMissing := by
  unfold FetchError.code FetchError.isMissing
  cases f.fault <;> simp

namespace Gate

open ReleaseGate.Action Artifacts

variable {host : Host} {setup : Setup} {candidate : Candidate} {m m' m₀ m₁ : Machine}
variable {newFile : Path} {f : FetchError} {e : Failure}

/-! ### The one point where two runs part -/

/-- The new artifact was found, and there is nothing at the location of the
old one. -/
structure MissesOld (host : Host) (setup : Setup) (candidate : Candidate) (m : Machine)
    (newFile : Path) (f : FetchError) (m₁ : Machine) : Prop where
  old : ∃ v, Version.parse candidate.oldVersion = .ok v
  new : ∃ v, Version.parse candidate.newVersion = .ok v
  search : ∃ m₀, (findNew host setup candidate).on m = (.ok newFile, m₀) ∧
    (resolve host setup.settings setup.fetcher candidate.oldLocation).on m₀ =
      (.error (.fetch f), m₁)
  missing : f.isMissing

/-- What is done with the files that were found. -/
def compareFound (host : Host) (setup : Setup) (candidate : Candidate) :
    Path × Option Path → Action Comparison
  | (newFile, none) => return withoutOld candidate newFile
  | (newFile, some oldFile) => do
    if ← Action.sameFiles host oldFile.text newFile.text then
      return withoutChange candidate oldFile newFile
    else
      let call ← prepare host candidate oldFile newFile
      let model ← callEngine host setup call
      return withChanges candidate oldFile newFile call model

theorem compare_eq_bind (host : Host) (setup : Setup) (candidate : Candidate) :
    compare host setup candidate =
      findFiles host setup candidate >>= compareFound host setup candidate := by
  unfold compare
  congr 1
  funext found
  obtain ⟨newFile, - | oldFile⟩ := found <;> rfl

/-- Two runs of a candidate that find the same files are the same. -/
theorem run_congr
    (h : ∀ old new, Version.parse candidate.oldVersion = .ok old →
      Version.parse candidate.newVersion = .ok new →
      (findFiles host setup candidate.asFirst).on m =
        (findFiles host setup candidate.asLater).on m) :
    (run host setup candidate.asFirst).on m = (run host setup candidate.asLater).on m := by
  rcases hold : Version.parse candidate.oldVersion with e | old
  · rw [on_run_of_parse_error candidate.asFirst (.inl hold),
      on_run_of_parse_error candidate.asLater (.inl hold)]
  rcases hnew : Version.parse candidate.newVersion with e | new
  · rw [on_run_of_parse_error candidate.asFirst (.inr ⟨⟨old, hold⟩, hnew⟩),
      on_run_of_parse_error candidate.asLater (.inr ⟨⟨old, hold⟩, hnew⟩)]
  -- what follows the search does not read the licence
  have hfound : compareFound host setup candidate.asFirst =
      compareFound host setup candidate.asLater := rfl
  have hfinish : finish host candidate.asFirst = finish host candidate.asLater := rfl
  rw [on_run_of_parse candidate.asFirst hold hnew,
    on_run_of_parse candidate.asLater hold hnew, on_bind, on_bind,
    compare_eq_bind, compare_eq_bind, on_bind, on_bind, h old new hold hnew, hfound, hfinish]

/-- The two searches differ only where the old artifact is missing. -/
theorem findFiles_congr
    (h : ∀ newFile m₀ f m₁, (findNew host setup candidate).on m = (.ok newFile, m₀) →
      (resolve host setup.settings setup.fetcher candidate.oldLocation).on m₀ =
        (.error (.fetch f), m₁) → ¬ f.isMissing) :
    (findFiles host setup candidate.asFirst).on m =
      (findFiles host setup candidate.asLater).on m := by
  have hnew : findNew host setup candidate.asFirst = findNew host setup candidate := rfl
  have hnew' : findNew host setup candidate.asLater = findNew host setup candidate := rfl
  rw [findFiles, findFiles, hnew, hnew', on_bind, on_bind]
  rcases hfind : (findNew host setup candidate).on m with ⟨e | newFile, m₀⟩
  · rfl
  · simp only
    have hold : (findOld host setup candidate.asFirst).on m₀ =
        (findOld host setup candidate.asLater).on m₀ :=
      resolve?_of_not_missing fun f m₁ hr => h newFile m₀ f m₁ hfind hr
    rw [on_bind, on_bind, hold]

/-! ### The run that has to follow something -/

/-- The release that has to follow another one fails where that is missing. -/
theorem MissesOld.run_asLater (h : MissesOld host setup candidate m newFile f m₁) :
    (run host setup candidate.asLater).on m = (.error (.fetch f), m₁) := by
  obtain ⟨⟨old, hold⟩, ⟨new, hnew⟩, ⟨m₀, hfind, hresolve⟩, -⟩ := h
  have hsearch : (findFiles host setup candidate.asLater).on m = (.error (.fetch f), m₁) := by
    rw [findFiles, on_bind_of_ok (a := findNew host setup candidate.asLater) hfind]
    refine on_bind_of_error ?_
    show (some <$> resolve host setup.settings setup.fetcher candidate.oldLocation).on m₀ = _
    rw [on_map, hresolve]
    rfl
  rw [on_run_of_parse candidate.asLater hold hnew, compare_eq_bind]
  exact on_bind_of_error (on_bind_of_error hsearch)

/-! ### The run that may be the first -/

/-- What comes of a release whose predecessor is missing, if it may be the
first: nothing but the reports is done after the search, and the release
passes if they can be written. -/
structure Forgiven (host : Host) (setup : Setup) (candidate : Candidate) (m : Machine)
    (newFile : Path) (m₁ : Machine) (r : Except Failure Outcome) (m' : Machine) : Prop where
  run : (run host setup candidate.asFirst).on m = (r, m')
  requests : m'.requests = m₁.requests
  calls : m'.calls = m.calls
  /-- No engine is made or called: any other one does as well, and so does
  none. -/
  engine : ∀ engine? toolJar java,
    (Gate.run host (setup.withEngine engine? toolJar java) candidate.asFirst).on m = (r, m')
  files : ∃ written,
    (writeReports host (withoutOld candidate newFile) (candidate.textReport.seenFrom host.workingDir)
      (candidate.htmlReport.seenFrom host.workingDir)).on m₁ = (written, m') ∧
    (∀ e, written = .error e → r = .error e) ∧
    (written = .ok () → ∃ o, r = .ok o ∧ o.passed ∧ o.verdict = .identical ∧
      o.comparison.skipped = some .missingOld ∧ o.comparison.new.path = some newFile ∧
      o.comparison.old.path = o.comparison.new.path ∧
      o.comparison.old.version = candidate.newVersion)

theorem MissesOld.on_run_asFirst (h : MissesOld host setup candidate m newFile f m₁) :
    (run host setup candidate.asFirst).on m =
      (finish host candidate (withoutOld candidate newFile)).on m₁ := by
  obtain ⟨⟨old, hold⟩, ⟨new, hnew⟩, ⟨m₀, hfind, hresolve⟩, hmissing⟩ := h
  have hsearch : (findFiles host setup candidate.asFirst).on m = (.ok (newFile, none), m₁) := by
    rw [findFiles, on_bind_of_ok (a := findNew host setup candidate.asFirst) hfind]
    have hnone : (findOld host setup candidate.asFirst).on m₀ = (.ok none, m₁) :=
      resolve?_of_missing hresolve hmissing
    rw [on_bind_of_ok hnone, on_pure]
  rw [on_run_of_parse candidate.asFirst hold hnew, compare_eq_bind]
  exact on_bind_of_ok (on_bind_of_ok hsearch)

/-- With another engine the same is missing. -/
theorem MissesOld.withEngine (h : MissesOld host setup candidate m newFile f m₁)
    (engine? : Option Engine) (toolJar : Option Path) (java : String) :
    MissesOld host (setup.withEngine engine? toolJar java) candidate m newFile f m₁ :=
  ⟨h.old, h.new, h.search, h.missing⟩

/-- The search for the artifacts calls no engine. -/
theorem MissesOld.calls (h : MissesOld host setup candidate m newFile f m₁) :
    m₁.calls = m.calls := by
  obtain ⟨m₀, hfind, hresolve⟩ := h.search
  exact (resolveRun_resolve hresolve).calls.trans (resolveRun_resolve hfind).calls

theorem MissesOld.forgiven (h : MissesOld host setup candidate m newFile f m₁) :
    ∃ r m', Forgiven host setup candidate m newFile m₁ r m' := by
  rcases hrun : (run host setup candidate.asFirst).on m with ⟨r, m'⟩
  have hfinish := h.on_run_asFirst.symm.trans hrun
  have hengine : ∀ engine? toolJar java,
      (run host (setup.withEngine engine? toolJar java) candidate.asFirst).on m = (r, m') :=
    fun engine? toolJar java =>
      (h.withEngine engine? toolJar java).on_run_asFirst.trans hfinish
  refine ⟨r, m', ?_⟩
  rw [finish] at hfinish
  rcases on_bind_cases hfinish with ⟨e, hwrite, rfl⟩ | ⟨u, m₂, hwrite, hrest⟩
  · have htrace := (traceless_writeReports host _ _ _).sameTrace hwrite
    exact ⟨hrun, htrace.requests, htrace.calls.trans h.calls, hengine, _, hwrite,
      fun _ he => congrArg Except.error (Except.error.inj he), fun hok => by cases hok⟩
  · obtain ⟨rfl, rfl⟩ := Prod.mk.inj hrest
    have htrace := (traceless_writeReports host _ _ _).sameTrace hwrite
    refine ⟨hrun, htrace.requests, htrace.calls.trans h.calls, hengine, _, hwrite, ?_, ?_⟩
    · intro e he
      cases he
    · exact fun _ => ⟨_, rfl, rfl, rfl, rfl, rfl, rfl, rfl⟩

/-! ### Both runs -/

/-- Where nothing is missing, the licence changes nothing. -/
theorem run_asFirst_of_not_missesOld
    (h : ¬ ∃ newFile f m₁, MissesOld host setup candidate m newFile f m₁) :
    (run host setup candidate.asFirst).on m = (run host setup candidate.asLater).on m := by
  refine run_congr fun old new hold hnew => findFiles_congr ?_
  intro newFile m₀ f m₁ hfind hresolve hmissing
  exact h ⟨newFile, f, m₁, ⟨old, hold⟩, ⟨new, hnew⟩, ⟨m₀, hfind, hresolve⟩, hmissing⟩

/-- **The licence to be the first release** forgives that there is nothing
at the old location, and nothing else.  In any other case the two runs are
the same, to the last file, request and call.  So every other failure stays:
one with the code of another kind or with none, and any failure of the
search for the new artifact. -/
theorem licence_forgives (host : Host) (setup : Setup) (candidate : Candidate) (m : Machine) :
    ((¬ ∃ newFile f m₁, MissesOld host setup candidate m newFile f m₁) →
      (run host setup candidate.asFirst).on m = (run host setup candidate.asLater).on m) ∧
    (∀ newFile f m₁, MissesOld host setup candidate m newFile f m₁ →
      (run host setup candidate.asLater).on m = (.error (.fetch f), m₁) ∧
      f.code = .artifactMissing ∧
      ∃ r m', Forgiven host setup candidate m newFile m₁ r m') ∧
    (∀ e m', (run host setup candidate.asLater).on m = (.error e, m') →
      e.code? ≠ some .artifactMissing →
      (run host setup candidate.asFirst).on m = (.error e, m')) ∧
    ∀ e m₀, (findNew host setup candidate).on m = (.error e, m₀) →
      ∃ e' m', (run host setup candidate.asLater).on m = (.error e', m') ∧
        (run host setup candidate.asFirst).on m = (.error e', m') := by
  refine ⟨run_asFirst_of_not_missesOld, ?_, ?_, ?_⟩
  · intro newFile f m₁ h
    exact ⟨h.run_asLater, f.code_eq_artifactMissing.2 h.missing, h.forgiven⟩
  · intro e m' hrun hcode
    rw [← hrun]
    refine run_asFirst_of_not_missesOld ?_
    rintro ⟨newFile, f, m₁, h⟩
    -- the failure would be that of the missing artifact
    obtain ⟨he, -⟩ := Prod.mk.inj (hrun.symm.trans h.run_asLater)
    rw [Except.error.inj he] at hcode
    exact hcode (congrArg some (f.code_eq_artifactMissing.2 h.missing))
  · intro e m₀ hfind
    have hsame : (run host setup candidate.asFirst).on m =
        (run host setup candidate.asLater).on m := by
      refine run_asFirst_of_not_missesOld ?_
      rintro ⟨newFile, f, m₁, h⟩
      obtain ⟨m₂, hfound, -⟩ := h.search
      cases hfind.symm.trans hfound
    rcases hrun : (run host setup candidate.asLater).on m with ⟨e' | o, m'⟩
    · exact ⟨e', m', rfl, hsame.trans hrun⟩
    · -- a run that ends well has found the new artifact
      obtain ⟨old, new, m₁, hold, hnew, hcompares, -⟩ := run_eq_ok_iff.1 hrun
      have hcompare := compare_eq_ok_iff.2 hcompares
      rw [compare_eq_bind, findFiles, on_bind_of_error
        (on_bind_of_error (a := findNew host setup candidate.asLater) hfind)] at hcompare
      cases hcompare

/-- There is no `old.jar` beside the build. -/
theorem missesOld_sideBySide :
    MissesOld .bare { settings := {} } (buildAfter "old.jar") (sideBySide "lib.aar")
      (.ofString "/lib.jar") ⟨"old.jar", .absent (.ofString "/old.jar")⟩ (sideBySide "lib.aar") :=
  ⟨⟨_, rfl⟩, ⟨_, rfl⟩, ⟨sideBySide "lib.aar", rfl, rfl⟩, rfl⟩

/-- A file that is not there is forgiven.  A build after itself needs no
licence; a location of a kind that is not known is not forgiven, and neither
is a build that is not there. -/
theorem licence_forgives_missing_file_only :
    (∃ r m', Forgiven .bare { settings := {} } (buildAfter "old.jar") (sideBySide "lib.aar")
      (.ofString "/lib.jar") (sideBySide "lib.aar") r m') ∧
    (run .bare { settings := {} } (buildAfter "lib.jar").asFirst).on (sideBySide "lib.aar") =
      (run .bare { settings := {} } (buildAfter "lib.jar").asLater).on (sideBySide "lib.aar") ∧
    (run .bare { settings := {} } (buildAfter "ftp://host/old.jar").asFirst).on
        (sideBySide "lib.aar") =
      (.error (.fetch ⟨"ftp://host/old.jar", .unsupported "ftp"⟩), sideBySide "lib.aar") ∧
    ∃ e m', (run .bare { settings := {} } (buildAfter "old.jar").asFirst).on {} =
      (.error e, m') := by
  refine ⟨?_, ?_, ?_, ?_⟩
  · obtain ⟨-, hmissing, -⟩ :=
      licence_forgives .bare { settings := {} } (buildAfter "old.jar") (sideBySide "lib.aar")
    obtain ⟨-, -, hforgiven⟩ := hmissing _ _ _ missesOld_sideBySide
    exact hforgiven
  · obtain ⟨hsame, -⟩ :=
      licence_forgives .bare { settings := {} } (buildAfter "lib.jar") (sideBySide "lib.aar")
    refine hsame ?_
    rintro ⟨newFile, f, m₁, -, -, ⟨m₀, hfind, hresolve⟩, -⟩
    obtain ⟨-, rfl⟩ := Prod.mk.inj (hfind.symm.trans
      (show _ = (.ok (.ofString "/lib.jar"), sideBySide "lib.aar") from rfl))
    cases hresolve.symm.trans (show _ = (.ok (.ofString "/lib.jar"), sideBySide "lib.aar") from rfl)
  · obtain ⟨-, -, hother, -⟩ := licence_forgives .bare { settings := {} }
      (buildAfter "ftp://host/old.jar") (sideBySide "lib.aar")
    exact hother _ _ rfl (by decide)
  · obtain ⟨-, -, -, hnew⟩ :=
      licence_forgives .bare { settings := {} } (buildAfter "old.jar") {}
    obtain ⟨e, m', -, hfirst⟩ := hnew (.fetch ⟨"/lib.jar", .absent (.ofString "/lib.jar")⟩) {} rfl
    exact ⟨e, m', hfirst⟩

end Gate

end ReleaseGate
